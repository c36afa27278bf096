import Mathlib.Data.List.Sort
import Mathlib.Data.Finset.Card

/-!
# A history with a budget

Of items under names, the newest of each name counts.  Names that are protected are kept and fill
the budget first; the room that they leave is filled with the newest of the others, and what is
left over may go.  A name is left over exactly where the room is no larger than the number of
unprotected names with an item newer than all of its own.
-/

namespace SolarFlowEms.BoundedHistory

variable {α δ : Type*} [DecidableEq δ] (name : α → δ) (kept? : δ → Bool) (budget : ℕ)

/-- The walk from the newest item on: what is left over once `kept` names fill the budget. -/
def leftOver : ℕ → List δ → List α → List α
  | _, _, [] => []
  | kept, seen, x :: rest =>
    if name x ∈ seen then leftOver kept seen rest
    else if kept? (name x) then leftOver kept (name x :: seen) rest
    else if kept < budget then leftOver (kept + 1) (name x :: seen) rest
    else x :: leftOver kept (name x :: seen) rest

def fresh (seen : List δ) (items : List α) : Finset δ :=
  (items.map name).toFinset.filter fun d => d ∉ seen ∧ kept? d = false

variable {name kept? budget}

variable {seen : List δ} {x : α}

theorem mem_fresh {items : List α} {d : δ} :
    d ∈ fresh name kept? seen items ↔ d ∈ items.map name ∧ d ∉ seen ∧ kept? d = false := by
  simp only [fresh, Finset.mem_filter, List.mem_toFinset]

theorem fresh_nil (seen : List δ) : fresh name kept? seen [] = ∅ := rfl

theorem fresh_cons_of_not (items : List α) (h : name x ∈ seen ∨ kept? (name x) = true) :
    fresh name kept? seen (x :: items) = fresh name kept? (name x :: seen) items := by
  ext d
  simp only [mem_fresh, List.map_cons, List.mem_cons, not_or]
  constructor
  · rintro ⟨rfl | hd, hseen, hkept⟩
    · rcases h with h | h
      · exact absurd h hseen
      · rw [h] at hkept
        cases hkept
    · refine ⟨hd, ⟨?_, hseen⟩, hkept⟩
      rintro rfl
      rcases h with h | h
      · exact hseen h
      · rw [h] at hkept
        cases hkept
  · rintro ⟨hd, ⟨-, hseen⟩, hkept⟩
    exact ⟨.inr hd, hseen, hkept⟩

theorem card_fresh_cons (items : List α) (hseen : name x ∉ seen) (hkept : kept? (name x) = false) :
    (fresh name kept? seen (x :: items)).card =
      (fresh name kept? (name x :: seen) items).card + 1 := by
  have hnot : name x ∉ fresh name kept? (name x :: seen) items := by
    rw [mem_fresh]
    exact fun h => h.2.1 List.mem_cons_self
  rw [← Finset.card_insert_of_notMem hnot]
  congr 1
  ext d
  simp only [mem_fresh, List.map_cons, List.mem_cons, not_or, Finset.mem_insert]
  constructor
  · rintro ⟨hd, hdseen, hdkept⟩
    by_cases hsame : d = name x
    · exact .inl hsame
    · exact .inr ⟨hd.resolve_left hsame, ⟨hsame, hdseen⟩, hdkept⟩
  · rintro (rfl | ⟨hd, ⟨-, hdseen⟩, hdkept⟩)
    · exact ⟨.inl rfl, hseen, hkept⟩
    · exact ⟨.inr hd, hdseen, hdkept⟩

/-- The items that are left over, told by what comes before them. -/
structure LeftAt (name : α → δ) (kept? : δ → Bool) (budget kept : ℕ) (seen : List δ) (x : α)
    (before : List α) : Prop where
  unseen : name x ∉ seen
  first : name x ∉ before.map name
  unprotected : kept? (name x) = false
  full : budget ≤ kept + (fresh name kept? seen before).card

theorem mem_leftOver {kept : ℕ} {items : List α} :
    x ∈ leftOver name kept? budget kept seen items ↔
      ∃ before after, items = before ++ x :: after ∧
        LeftAt name kept? budget kept seen x before := by
  induction items generalizing kept seen with
  | nil => simp [leftOver]
  | cons y rest ih =>
    -- what is left over of the rest is so with the first item before it
    have hrest (kept' : ℕ) (seen' : List δ)
        (hleft : ∀ before, LeftAt name kept? budget kept' seen' x before ↔
          LeftAt name kept? budget kept seen x (y :: before)) :
        x ∈ leftOver name kept? budget kept' seen' rest ↔
          ∃ before after, rest = before ++ x :: after ∧
            LeftAt name kept? budget kept seen x (y :: before) := by
      rw [ih]
      simp only [hleft]
    have hsplit : (∃ before after, y :: rest = before ++ x :: after ∧
          LeftAt name kept? budget kept seen x before) ↔
        (y = x ∧ LeftAt name kept? budget kept seen x []) ∨
          ∃ before after, rest = before ++ x :: after ∧
            LeftAt name kept? budget kept seen x (y :: before) := by
      constructor
      · rintro ⟨before, after, heq, hleft⟩
        cases before with
        | nil => exact .inl ⟨(List.cons.inj heq).1, hleft⟩
        | cons z before =>
          obtain ⟨hhead, hrest⟩ := List.cons.inj heq
          exact .inr ⟨before, after, hrest, hhead ▸ hleft⟩
      · rintro (⟨rfl, hleft⟩ | ⟨before, after, heq, hleft⟩)
        · exact ⟨[], rest, rfl, hleft⟩
        · exact ⟨y :: before, after, by rw [heq]; rfl, hleft⟩
    rw [hsplit, leftOver]
    by_cases hseen : name y ∈ seen
    · rw [if_pos hseen, hrest kept seen ?_]
      · refine (or_iff_right ?_).symm
        rintro ⟨rfl, hleft⟩
        exact hleft.unseen hseen
      · intro before
        have hfresh : fresh name kept? seen (y :: before) = fresh name kept? seen before := by
          ext d
          simp only [mem_fresh, List.map_cons, List.mem_cons]
          constructor
          · rintro ⟨rfl | hd, hdseen, hdkept⟩
            · exact absurd hseen hdseen
            · exact ⟨hd, hdseen, hdkept⟩
          · rintro ⟨hd, hrest⟩
            exact ⟨.inr hd, hrest⟩
        constructor
        · rintro ⟨hunseen, hfirst, hunprotected, hfull⟩
          refine ⟨hunseen, ?_, hunprotected, by rw [hfresh]; exact hfull⟩
          simp only [List.map_cons, List.mem_cons, not_or]
          exact ⟨fun hsame => hunseen (hsame ▸ hseen), hfirst⟩
        · rintro ⟨hunseen, hfirst, hunprotected, hfull⟩
          rw [hfresh] at hfull
          exact ⟨hunseen, fun h => hfirst (List.mem_cons_of_mem _ h), hunprotected, hfull⟩
    rw [if_neg hseen]
    -- the first item is seen from here on, and counts where it is unprotected
    have hstep (kept' : ℕ) (before : List α)
        (hcount : budget ≤ kept' + (fresh name kept? (name y :: seen) before).card ↔
          budget ≤ kept + (fresh name kept? seen (y :: before)).card) :
        LeftAt name kept? budget kept' (name y :: seen) x before ↔
          LeftAt name kept? budget kept seen x (y :: before) := by
      constructor
      · rintro ⟨hunseen, hfirst, hunprotected, hfull⟩
        obtain ⟨hne, hunseen⟩ := not_or.mp (fun h => hunseen (List.mem_cons.mpr h))
        refine ⟨hunseen, ?_, hunprotected, hcount.mp hfull⟩
        simp only [List.map_cons, List.mem_cons, not_or]
        exact ⟨hne, hfirst⟩
      · rintro ⟨hunseen, hfirst, hunprotected, hfull⟩
        simp only [List.map_cons, List.mem_cons, not_or] at hfirst
        refine ⟨?_, hfirst.2, hunprotected, hcount.mpr hfull⟩
        simp only [List.mem_cons, not_or]
        exact ⟨hfirst.1, hunseen⟩
    by_cases hkept : kept? (name y) = true
    · rw [if_pos hkept, hrest kept (name y :: seen) fun before => hstep kept before ?_]
      · refine (or_iff_right ?_).symm
        rintro ⟨rfl, hleft⟩
        rw [hleft.unprotected] at hkept
        cases hkept
      · rw [fresh_cons_of_not before (.inr hkept)]
    rw [if_neg hkept]
    simp only [Bool.not_eq_true] at hkept
    by_cases hroom : kept < budget
    · rw [if_pos hroom, hrest (kept + 1) (name y :: seen) fun before => hstep (kept + 1) before ?_]
      · refine (or_iff_right ?_).symm
        rintro ⟨rfl, hleft⟩
        have hfull := hleft.full
        rw [fresh_nil, Finset.card_empty] at hfull
        omega
      · rw [card_fresh_cons before hseen hkept]
        omega
    rw [if_neg hroom, List.mem_cons, hrest kept (name y :: seen) fun before => hstep kept before ?_]
    · refine or_congr_left ⟨?_, fun h => h.1.symm⟩
      rintro rfl
      refine ⟨rfl, hseen, ?_, hkept, by omega⟩
      simp
    · constructor
      · intro _
        omega
      · intro _
        omega

/-! ### From the newest item on -/

section Newest

variable [LinearOrder α] {items : List α} {d : δ}

def Newer (name : α → δ) (items : List α) (d' d : δ) : Prop :=
  ∃ y ∈ items, name y = d' ∧ ∀ x ∈ items, name x = d → x < y

instance (d' : δ) : Decidable (Newer name items d' d) :=
  inferInstanceAs (Decidable (∃ y ∈ items, name y = d' ∧ ∀ x ∈ items, name x = d → x < y))

/-- The names that are kept before this one: unprotected ones with a newer item. -/
def newerNames (name : α → δ) (kept? : δ → Bool) (items : List α) (d : δ) : Finset δ :=
  (items.map name).toFinset.filter fun d' => kept? d' = false ∧ Newer name items d' d

def newestFirst (items : List α) : List α := items.insertionSort (· ≥ ·)

theorem mem_newestFirst {x : α} : x ∈ newestFirst items ↔ x ∈ items :=
  (List.perm_insertionSort _ items).mem_iff

/-- Before the first item of a name come the items newer than all of its own. -/
theorem fresh_eq_newerNames {x : α} {before after : List α}
    (hsplit : newestFirst items = before ++ x :: after) (hfirst : name x ∉ before.map name) :
    fresh name kept? [] before = newerNames name kept? items (name x) := by
  have hsorted : (newestFirst items).Pairwise (· ≥ ·) := List.pairwise_insertionSort _ items
  rw [hsplit, List.pairwise_append] at hsorted
  obtain ⟨-, hafter, hbefore⟩ := hsorted
  have hmem (y : α) : y ∈ items ↔ y ∈ before ∨ y = x ∨ y ∈ after := by
    rw [← mem_newestFirst, hsplit, List.mem_append, List.mem_cons]
  ext d'
  simp only [mem_fresh, newerNames, Finset.mem_filter, List.mem_toFinset, List.not_mem_nil,
    not_false_eq_true, true_and]
  constructor
  · rintro ⟨hd', hkept⟩
    obtain ⟨y, hy, rfl⟩ := List.mem_map.mp hd'
    refine ⟨List.mem_map_of_mem ((hmem y).mpr (.inl hy)), hkept, y, (hmem y).mpr (.inl hy), rfl, ?_⟩
    intro z hz hname
    have hother : z ≠ y := by
      rintro rfl
      exact hfirst (hname ▸ hd')
    have hle : z ≤ y := by
      rcases (hmem z).mp hz with hz | rfl | hz
      · exact absurd (hname ▸ List.mem_map_of_mem hz) hfirst
      · exact hbefore y hy z List.mem_cons_self
      · exact hbefore y hy z (List.mem_cons_of_mem _ hz)
    exact lt_of_le_of_ne hle hother
  · rintro ⟨-, hkept, y, hy, rfl, hnewer⟩
    have hlt : x < y := hnewer x ((hmem x).mpr (.inr (.inl rfl))) rfl
    refine ⟨?_, hkept⟩
    rcases (hmem y).mp hy with hy | rfl | hy
    · exact List.mem_map_of_mem hy
    · exact absurd hlt (lt_irrefl _)
    · exact absurd hlt (not_lt.mpr ((List.pairwise_cons.mp hafter).1 y hy))

/-- **What is left over of the items, the newest first**, are the unprotected names that have no
room. -/
theorem mem_leftOver_newestFirst {kept : ℕ} :
    (∃ x ∈ leftOver name kept? budget kept [] (newestFirst items), name x = d) ↔
      d ∈ items.map name ∧ kept? d = false ∧
        budget ≤ kept + (newerNames name kept? items d).card := by
  constructor
  · rintro ⟨x, hx, rfl⟩
    obtain ⟨before, after, hsplit, hleft⟩ := mem_leftOver.mp hx
    have hitem : x ∈ items := by
      rw [← mem_newestFirst, hsplit]
      exact List.mem_append_right _ List.mem_cons_self
    refine ⟨List.mem_map_of_mem hitem, hleft.unprotected, ?_⟩
    rw [← fresh_eq_newerNames hsplit hleft.first]
    exact hleft.full
  · rintro ⟨hd, hkept, hfull⟩
    have hsome : ∃ x, (newestFirst items).find? (fun x => name x = d) = some x := by
      obtain ⟨x, hx, hname⟩ := List.mem_map.mp hd
      refine Option.isSome_iff_exists.mp (List.find?_isSome.mpr ⟨x, mem_newestFirst.mpr hx, ?_⟩)
      exact decide_eq_true hname
    obtain ⟨x, hx⟩ := hsome
    obtain ⟨hname, before, after, hsplit, hbefore⟩ := List.find?_eq_some_iff_append.mp hx
    obtain rfl : name x = d := of_decide_eq_true hname
    have hfirst : name x ∉ before.map name := by
      intro hmem
      obtain ⟨y, hy, hsame⟩ := List.mem_map.mp hmem
      simpa [hsame] using hbefore y hy
    refine ⟨x, mem_leftOver.mpr ⟨before, after, hsplit, ?_, hfirst, hkept, ?_⟩, rfl⟩
    · simp
    · rw [fresh_eq_newerNames hsplit hfirst]
      exact hfull

end Newest

end SolarFlowEms.BoundedHistory
