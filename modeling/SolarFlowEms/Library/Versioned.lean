import Mathlib.Data.Int.Notation
import Mathlib.Data.List.Perm.Basic

/-!
# Records with versions

A collection of records, each with a key, a version and a content, is changed by many writers.
Each of them reads the collection at some time and later changes a record at the version it
read.  What makes that safe is an invariant between the collection and all that was read from
it: no two records have one key, and a record with the key of something that was read has a
later version, or the version that was read and the content that was read.  A change that
advances the version keeps the invariant, and under it a change at the version that was read
meets the content that was read.
-/

namespace SolarFlowEms.Versioned

/-- What readers and writers see of a record.  A record without a key or a version is one that
no change can name. -/
structure View (κ γ : Type*) where
  key : Option κ
  version : Option ℤ
  content : γ

/-- What was read of a record. -/
structure Reading (κ γ : Type*) where
  key : κ
  version : ℤ
  content : γ

variable {κ γ : Type*}

def Apart (key key' : Option κ) : Prop := ∀ k, key = some k → key' ≠ some k

theorem Apart.symm {key key' : Option κ} (h : Apart key key') : Apart key' key :=
  fun k hk' hk => h k hk hk'

/-- Nothing that was read is ahead of the record, and at its version it is as it was read. -/
def UpToDate (readings : List (Reading κ γ)) (view : View κ γ) : Prop :=
  ∀ reading ∈ readings, view.key = some reading.key → ∀ version, view.version = some version →
    reading.version < version ∨ version = reading.version ∧ view.content = reading.content

/-- **The collection and what was read from it agree.** -/
structure Sound (views : List (View κ γ)) (readings : List (Reading κ γ)) : Prop where
  distinct : (views.map View.key).Pairwise Apart
  upToDate : ∀ view ∈ views, UpToDate readings view

/-- What a reader of the record learns. -/
def View.reading? (view : View κ γ) : Option (Reading κ γ) :=
  match view.key, view.version with
  | some key, some version => some { key, version, content := view.content }
  | _, _ => none

variable {view view' : View κ γ} {reading : Reading κ γ} {i : ℕ}

theorem View.reading?_eq_some :
    view.reading? = some reading ↔ view.key = some reading.key ∧
      view.version = some reading.version ∧ view.content = reading.content := by
  obtain ⟨key, version, content⟩ := view
  obtain ⟨key', version', content'⟩ := reading
  cases key <;> cases version <;> simp [View.reading?]

variable {views views' : List (View κ γ)} {readings : List (Reading κ γ)}

theorem Sound.start (h : (views.map View.key).Pairwise Apart) : Sound views [] where
  distinct := h
  upToDate := fun _ _ _ hreading => nomatch hreading

theorem Sound.sublist (h : Sound views readings) (hsub : views'.Sublist views) :
    Sound views' readings where
  distinct := h.distinct.sublist (hsub.map View.key)
  upToDate := fun view hview => h.upToDate view (hsub.subset hview)

theorem Sound.perm (h : Sound views readings) (hperm : views'.Perm views) :
    Sound views' readings where
  distinct := ((hperm.map View.key).pairwise_iff Apart.symm).mpr h.distinct
  upToDate := fun view hview => h.upToDate view (hperm.mem_iff.mp hview)

theorem Sound.append (h : Sound views readings) (hnew : ∀ v ∈ views, Apart v.key view.key)
    (hunread : ∀ reading ∈ readings, view.key ≠ some reading.key) :
    Sound (views ++ [view]) readings where
  distinct := by
    rw [List.map_append, List.pairwise_append]
    refine ⟨h.distinct, List.pairwise_singleton _ _, ?_⟩
    intro key hkey key' hkey'
    obtain ⟨v, hv, rfl⟩ := List.mem_map.mp hkey
    rw [List.mem_singleton.mp hkey']
    exact hnew v hv
  upToDate := by
    intro v hv
    rcases List.mem_append.mp hv with hold | hadded
    · exact h.upToDate v hold
    · rw [List.mem_singleton.mp hadded]
      intro reading hreading hkey
      exact absurd hkey (hunread reading hreading)

theorem map_key_set (hget : views[i]? = some view)
    (hkey : view'.key = view.key) : (views.set i view').map View.key = views.map View.key := by
  obtain ⟨hi, hview⟩ := List.getElem?_eq_some_iff.mp hget
  rw [List.map_set, hkey, ← hview, ← List.getElem_map View.key, List.set_getElem_self]
  rwa [List.length_map]

theorem Sound.set (h : Sound views readings) {version : ℤ}
    (hget : views[i]? = some view) (hversion : view.version = some version)
    (hkey : view'.key = view.key) (hversion' : view'.version = some (version + 1)) :
    Sound (views.set i view') readings where
  distinct := (map_key_set hget hkey).symm ▸ h.distinct
  upToDate := by
    intro v hv
    rcases List.mem_or_eq_of_mem_set hv with hold | rfl
    · exact h.upToDate v hold
    · intro reading hreading hread z hz
      rw [hversion'] at hz
      cases hz
      rcases h.upToDate view (List.mem_of_getElem? hget) reading hreading (hkey ▸ hread) version
        hversion with hlt | ⟨heq, -⟩
      · exact .inl (by omega)
      · exact .inl (by omega)

def Unread (readings : List (Reading κ γ)) (view : View κ γ) : Prop :=
  ∀ reading ∈ readings, view.key = some reading.key → view.version ≠ some reading.version

theorem UpToDate.touch (h : UpToDate readings view)
    (hkey : view'.key = view.key) (hversion : view'.version = view.version)
    (hunread : Unread readings view) : UpToDate readings view' := by
  intro reading hreading hread version hv
  rw [hkey] at hread
  rw [hversion] at hv
  refine .inl ((h reading hreading hread version hv).resolve_right ?_)
  rintro ⟨rfl, -⟩
  exact hunread reading hreading hread hv

theorem Sound.touch (h : Sound views readings)
    (hchange : List.Forall₂ (fun view view' => view' = view ∨
      view'.key = view.key ∧ view'.version = view.version ∧ Unread readings view) views views') :
    Sound views' readings := by
  obtain ⟨hdistinct, hupToDate⟩ := h
  have hboth : views'.map View.key = views.map View.key ∧ ∀ v ∈ views', UpToDate readings v := by
    clear hdistinct
    induction hchange with
    | nil => exact ⟨rfl, nofun⟩
    | @cons view view' rest rest' hfirst _ ih =>
      obtain ⟨hkeys, hrest⟩ := ih fun v hv => hupToDate v (List.mem_cons_of_mem view hv)
      have hview := hupToDate view List.mem_cons_self
      have hview' : view'.key = view.key ∧ UpToDate readings view' := by
        rcases hfirst with rfl | ⟨hkey, hversion, hunread⟩
        · exact ⟨rfl, hview⟩
        · exact ⟨hkey, hview.touch hkey hversion hunread⟩
      refine ⟨by rw [List.map_cons, List.map_cons, hview'.1, hkeys], ?_⟩
      intro v hv
      rcases List.mem_cons.mp hv with rfl | hmem
      · exact hview'.2
      · exact hrest v hmem
  exact ⟨hboth.1.symm ▸ hdistinct, hboth.2⟩

theorem eq_of_key_eq (h : (views.map View.key).Pairwise Apart)
    (hview : view ∈ views) (hview' : view' ∈ views) {key : κ} (hkey : view.key = some key)
    (hkey' : view'.key = some key) : view = view' := by
  induction views with
  | nil => cases hview
  | cons first rest ih =>
    obtain ⟨hfirst, hrest⟩ := List.pairwise_cons.mp h
    rcases List.mem_cons.mp hview with rfl | hmem <;> rcases List.mem_cons.mp hview' with rfl | hmem'
    · rfl
    · exact absurd hkey' (hfirst _ (List.mem_map_of_mem hmem') key hkey)
    · exact absurd hkey (hfirst _ (List.mem_map_of_mem hmem) key hkey')
    · exact ih hrest hmem hmem'

theorem Sound.read (h : Sound views readings) :
    Sound views (readings ++ views.filterMap View.reading?) where
  distinct := h.distinct
  upToDate := by
    intro view hview reading hreading hkey version hversion
    rcases List.mem_append.mp hreading with hold | hnew
    · exact h.upToDate view hview reading hold hkey version hversion
    · obtain ⟨view', hview', hread⟩ := List.mem_filterMap.mp hnew
      obtain ⟨hkey', hversion', hcontent⟩ := View.reading?_eq_some.mp hread
      obtain rfl := eq_of_key_eq h.distinct hview hview' hkey hkey'
      rw [hversion] at hversion'
      exact .inr ⟨Option.some.inj hversion', hcontent⟩

/-- **A change at the version that was read meets the content that was read.** -/
theorem Sound.content_eq (h : Sound views readings) (hview : view ∈ views)
    (hreading : reading ∈ readings) (hkey : view.key = some reading.key)
    (hversion : view.version = some reading.version) : view.content = reading.content := by
  rcases h.upToDate view hview reading hreading hkey _ hversion with hlt | ⟨-, hcontent⟩
  · omega
  · exact hcontent

end SolarFlowEms.Versioned
