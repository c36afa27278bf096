import Mathlib.Data.List.DropRight
import SolarFlowEms.Library.PyValue

/-!
# Texts without surrounding whitespace

What is left of a text that is stripped when it is read, and is refused where nothing is left.
Such a text is read back as itself, however often it is written.
-/

namespace SolarFlowEms.Python

/-- A text that starts and ends with something to read. -/
structure Text where
  val : String
  stripped : pyStrip val = val
  ne_empty : val ≠ ""

theorem Text.val_injective : Function.Injective Text.val := by
  intro a b h
  cases a
  cases h
  rfl

instance : DecidableEq Text := Text.val_injective.decidableEq

theorem toList_pyStrip (s : String) :
    (pyStrip s).toList = (s.toList.dropWhile isPySpace).rdropWhile isPySpace := by
  rw [pyStrip, String.toList_ofList, List.rdropWhile]

theorem pyStrip_eq_self {s : String} (hhead : ∀ c ∈ s.toList.head?, isPySpace c = false)
    (hlast : ∀ c ∈ s.toList.getLast?, isPySpace c = false) : pyStrip s = s := by
  apply String.toList_inj.mp
  rw [toList_pyStrip]
  cases hchars : s.toList with
  | nil => rfl
  | cons c rest =>
    rw [hchars] at hhead hlast
    rw [List.dropWhile_cons_of_neg (by simp [hhead c rfl]), List.rdropWhile_eq_self_iff]
    intro hne
    rw [hlast _ (List.getLast?_eq_some_getLast hne)]
    exact Bool.false_ne_true

/-- **Stripping what is stripped changes nothing.** -/
theorem pyStrip_pyStrip (s : String) : pyStrip (pyStrip s) = pyStrip s := by
  apply pyStrip_eq_self
  · intro c hc
    rw [toList_pyStrip] at hc
    obtain ⟨rest, hrest⟩ := List.rdropWhile_prefix isPySpace (s.toList.dropWhile isPySpace)
    have hhead : (s.toList.dropWhile isPySpace).head? = some c := by
      rw [← hrest, List.head?_append, hc]
      rfl
    have hpass := List.head?_dropWhile_not isPySpace s.toList
    rw [hhead] at hpass
    simpa using hpass
  · intro c hc
    rw [toList_pyStrip] at hc
    have hne : (s.toList.dropWhile isPySpace).rdropWhile isPySpace ≠ [] := by
      intro hnil
      rw [hnil] at hc
      cases hc
    have hlast := List.rdropWhile_last_not isPySpace _ hne
    rw [List.getLast?_eq_some_getLast hne] at hc
    rw [Option.mem_some_iff.mp hc] at hlast
    simpa using hlast

namespace Text

/-- `value.strip()`, where anything is left of it. -/
def ofString? (s : String) : Option Text :=
  if h : pyStrip s ≠ "" then some ⟨pyStrip s, pyStrip_pyStrip s, h⟩ else none

/-- **A stripped text is read as itself.** -/
@[simp] theorem ofString?_val (t : Text) : ofString? t.val = some t := by
  have hne : pyStrip t.val ≠ "" := t.stripped.symm ▸ t.ne_empty
  rw [ofString?, dif_pos hne]
  exact congrArg some (by cases t; simp_all)

theorem ofString?_eq_some {s : String} (h : pyStrip s ≠ "") :
    ∃ t, ofString? s = some t ∧ t.val = pyStrip s :=
  ⟨⟨pyStrip s, pyStrip_pyStrip s, h⟩, dif_pos h, rfl⟩

theorem ofString?_eq_none {s : String} (h : pyStrip s = "") : ofString? s = none :=
  dif_neg (not_not.mpr h)

end Text

end SolarFlowEms.Python
