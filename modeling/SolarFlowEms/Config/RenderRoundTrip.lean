import SolarFlowEms.Config.RenderJson
import SolarFlowEms.Library.JsonRules

/-!
# A written config is read back

Whatever layout a config is written in, the text denotes the config: the commas are appended to
the line of the item before, so that the lines of an object or a list are its items with commas and
whitespace between them.  The keys come back in the order of the template.
-/

namespace SolarFlowEms.Config

open Python Documents Json

/-! ### Lines -/

variable {line : Line} {lines : List Line} {c : Char}

theorem joinLines_cons (h : lines ≠ []) :
    joinLines (line :: lines) = line ++ '\n' :: joinLines lines := by
  cases lines with
  | nil => exact absurd rfl h
  | cons next lines => rfl

theorem joinLines_append {lines' : List Line} (h : lines ≠ []) (h' : lines' ≠ []) :
    joinLines (lines ++ lines') = joinLines lines ++ '\n' :: joinLines lines' := by
  induction lines with
  | nil => exact absurd rfl h
  | cons line lines ih =>
    cases lines with
    | nil => exact joinLines_cons h'
    | cons next lines =>
      rw [List.cons_append, joinLines_cons (List.append_ne_nil_of_left_ne_nil (List.cons_ne_nil _ _) _),
        ih (List.cons_ne_nil next lines), joinLines_cons (List.cons_ne_nil next lines),
        List.append_assoc]
      rfl

theorem joinLines_append_cons (before line : Line) (lines : List Line) :
    joinLines ((before ++ line) :: lines) = before ++ joinLines (line :: lines) := by
  cases lines with
  | nil => rfl
  | cons next lines => simp [joinLines]

theorem appendToLast_ne_nil (h : lines ≠ []) (text : Line) :
    appendToLast lines text ≠ [] := by
  cases lines with
  | nil => exact absurd rfl h
  | cons line lines => cases lines <;> exact List.cons_ne_nil _ _

theorem appendToLast_cons (h : lines ≠ []) (text : Line) :
    appendToLast (line :: lines) text = line :: appendToLast lines text := by
  cases lines with
  | nil => exact absurd rfl h
  | cons next lines => rfl

theorem joinLines_appendToLast (h : lines ≠ []) (text : Line) :
    joinLines (appendToLast lines text) = joinLines lines ++ text := by
  induction lines with
  | nil => exact absurd rfl h
  | cons line lines ih =>
    cases lines with
    | nil => rfl
    | cons next lines =>
      have hnext := List.cons_ne_nil next lines
      rw [appendToLast_cons hnext, joinLines_cons (appendToLast_ne_nil hnext text), ih hnext,
        joinLines_cons hnext, List.append_assoc, List.cons_append]

theorem joinLines_replicate (h : lines ≠ []) (n : ℕ) :
    joinLines (lines ++ List.replicate n []) = joinLines lines ++ List.replicate n '\n' := by
  induction n with
  | zero => simp
  | succ n ih =>
    have hblank : joinLines [([] : Line)] = [] := rfl
    rw [List.replicate_succ', ← List.append_assoc,
      joinLines_append (List.append_ne_nil_of_left_ne_nil h _) (List.cons_ne_nil _ _), ih, hblank,
      List.replicate_succ', List.append_assoc]

theorem isSpaces_indentation (indent : ℕ) : IsSpaces (indentation indent) := by
  intro c hc
  rw [List.eq_of_mem_replicate hc]
  rfl

theorem isSpaces_newlines (n : ℕ) : IsSpaces (List.replicate n '\n') := by
  intro c hc
  rw [List.eq_of_mem_replicate hc]
  rfl

theorem isSpaces_append {space space' : List Char} (h : IsSpaces space) (h' : IsSpaces space') :
    IsSpaces (space ++ space') := by
  intro c hc
  rcases List.mem_append.mp hc with hc | hc
  · exact h c hc
  · exact h' c hc

theorem isSpaces_newline {space : List Char} (h : IsSpaces space) : IsSpaces ('\n' :: space) :=
  List.forall_mem_cons.mpr ⟨rfl, h⟩

/-! ### The loop over items -/

section

variable {α : Type} {opening : Char} {indent : ℕ}

/-- Where the loop stands: at the line of the opening bracket, or behind items with commas between
them. -/
inductive Stands (opening : Char) (indent : ℕ) : List Line × Bool → List (Item α) → Prop
  | start : Stands opening indent ([indentation indent ++ [opening]], false) []
  | behind (body : List Line) (done : List (Item α)) (hbody : body ≠ []) (hdone : done ≠ [])
    (hjoin : joinLines ([opening] :: body) = opening :: itemsText done) :
    Stands opening indent ((indentation indent ++ [opening]) :: body, true) done

variable {state : List Line × Bool} {done : List (Item α)}

theorem Stands.step (h : Stands opening indent state done) {lines : List Line} (hlines : lines ≠ [])
    {space text : List Char} (hspace : IsSpaces space) (htext : joinLines lines = space ++ text)
    (blankLines : ℕ) (value : α) :
    ∃ space', IsSpaces space' ∧
      Stands opening indent (addItem state blankLines lines) (done ++ [⟨space', text, value⟩]) := by
  cases h with
  | start =>
    refine ⟨'\n' :: space, isSpaces_newline hspace, .behind lines _ hlines (List.cons_ne_nil _ _) ?_⟩
    rw [joinLines_cons hlines, htext]
    rfl
  | behind body _ hbody hdone hjoin =>
    have hcomma := appendToLast_ne_nil (List.cons_ne_nil [opening] body) [',']
    have hblank : appendToLast body [','] ++ List.replicate blankLines [] ≠ [] :=
      List.append_ne_nil_of_left_ne_nil (appendToLast_ne_nil hbody _) _
    have hstate : addItem ((indentation indent ++ [opening]) :: body, true) blankLines lines =
        ((indentation indent ++ [opening]) ::
          (appendToLast body [','] ++ List.replicate blankLines [] ++ lines), true) := by
      rw [addItem, if_pos rfl, appendToLast_cons hbody]
      rfl
    refine ⟨List.replicate blankLines '\n' ++ '\n' :: space,
      isSpaces_append (isSpaces_newlines _) (isSpaces_newline hspace), ?_⟩
    rw [hstate]
    refine .behind _ _ (List.append_ne_nil_of_right_ne_nil _ hlines)
      (List.append_ne_nil_of_right_ne_nil _ (List.cons_ne_nil _ _)) ?_
    have hlast : [opening] :: (appendToLast body [','] ++ List.replicate blankLines [] ++ lines) =
        appendToLast ([opening] :: body) [','] ++ List.replicate blankLines [] ++ lines := by
      rw [appendToLast_cons hbody]
      rfl
    rw [hlast, joinLines_append (List.append_ne_nil_of_left_ne_nil hcomma _) hlines,
      joinLines_replicate hcomma, joinLines_appendToLast (List.cons_ne_nil _ _), hjoin, htext,
      itemsText_concat hdone]
    simp

/-- What the lines of an item say: whitespace, and a text of which `P` holds. -/
def Holds (P : List Char → α → Prop) (lines : List Line) (value : α) : Prop :=
  lines ≠ [] ∧ ∃ space text, IsSpaces space ∧ joinLines lines = space ++ text ∧ P text value

theorem Stands.run {β : Type} {P : List Char → α → Prop}
    (h : Stands opening indent state done) (blankLines : β → ℕ)
    (lines : β → List Line) (value : β → α) (items : List β)
    (hitems : ∀ item ∈ items, Holds P (lines item) (value item)) :
    ∃ more : List (Item α), more.map Item.value = items.map value ∧
      (∀ item ∈ more, IsSpaces item.space ∧ P item.text item.value) ∧
      Stands opening indent
        (items.foldl (fun state item => addItem state (blankLines item) (lines item)) state)
        (done ++ more) := by
  induction items generalizing state done with
  | nil => exact ⟨[], rfl, fun item hitem => absurd hitem List.not_mem_nil, by rwa [List.append_nil]⟩
  | cons item items ih =>
    obtain ⟨⟨hlines, space, text, hspace, htext, hP⟩, hrest⟩ := List.forall_mem_cons.mp hitems
    obtain ⟨space', hspace', hstands⟩ :=
      h.step hlines hspace htext (blankLines item) (value item)
    obtain ⟨more, hvalues, hmore, hend⟩ := ih hstands hrest
    refine ⟨⟨space', text, value item⟩ :: more, ?_, List.forall_mem_cons.mpr ⟨⟨hspace', hP⟩, hmore⟩, ?_⟩
    · rw [List.map_cons, List.map_cons, hvalues]
    · rwa [List.append_assoc] at hend

theorem Stands.close (h : Stands opening indent state done) (hne : done ≠ []) (close : Char) :
    ∃ body, state.1 ++ [indentation indent ++ [close]] = (indentation indent ++ [opening]) :: body ∧
      joinLines ([opening] :: body) =
        opening :: (itemsText done ++ ('\n' :: indentation indent ++ [close])) := by
  cases h with
  | start => exact absurd rfl hne
  | behind body _ hbody hdone hjoin =>
    refine ⟨body ++ [indentation indent ++ [close]], rfl, ?_⟩
    have hcons : [opening] :: (body ++ [indentation indent ++ [close]]) =
        ([opening] :: body) ++ [indentation indent ++ [close]] := rfl
    rw [hcons, joinLines_append (List.cons_ne_nil _ _) (List.cons_ne_nil _ _), hjoin]
    rfl

end

/-! ### One line -/

section

variable {α β : Type}

variable (text : β → List Char) (value : β → α) (space : List Char)

/-- Items on one line: whitespace before the first, and one space before each of the others. -/
def inlineItems : List β → List (Item α)
  | [] => []
  | item :: items =>
    ⟨space, text item, value item⟩ :: items.map fun item => ⟨[' '], text item, value item⟩

theorem itemsText_inlineItems {items : List β} (hne : items ≠ []) :
    itemsText (inlineItems text value space items) = space ++ joinItems (items.map text) := by
  obtain ⟨item, items, rfl⟩ := List.exists_cons_of_ne_nil hne
  rw [inlineItems]
  clear hne
  induction items generalizing space item with
  | nil => rfl
  | cons next items ih =>
    rw [List.map_cons, itemsText, ih]
    simp [joinItems]

theorem values_inlineItems (items : List β) :
    (inlineItems text value space items).map Item.value = items.map value := by
  cases items with
  | nil => rfl
  | cons item items =>
    rw [inlineItems, List.map_cons, List.map_map, List.map_cons]
    rfl

theorem mem_inlineItems (hspace : IsSpaces space) {items : List β} {item : Item α}
    (h : item ∈ inlineItems text value space items) :
    IsSpaces item.space ∧ ∃ b ∈ items, item.text = text b ∧ item.value = value b := by
  cases items with
  | nil => cases h
  | cons first items =>
    rcases List.mem_cons.mp h with rfl | h
    · exact ⟨hspace, first, List.mem_cons_self, rfl, rfl⟩
    · obtain ⟨b, hb, rfl⟩ := List.mem_map.mp h
      exact ⟨isSpaces_indentation 1, b, List.mem_cons_of_mem _ hb, rfl, rfl⟩

theorem inlineItems_ne_nil {items : List β} (hne : items ≠ []) :
    inlineItems text value space items ≠ [] := by
  obtain ⟨item, items, rfl⟩ := List.exists_cons_of_ne_nil hne
  exact List.cons_ne_nil _ _

end

def EndsTight (text : List Char) : Prop := ∃ front c, text = front ++ [c] ∧ isPySpace c = false

/-- A text that `strip` leaves as it is. -/
def Tight (text : List Char) : Prop :=
  (∃ c tail, text = c :: tail ∧ isPySpace c = false) ∧ EndsTight text

theorem stripLine_indented (indent : ℕ) {text : List Char} (h : Tight text) :
    stripLine (indentation indent ++ text) = text := by
  obtain ⟨⟨c, tail, hc, hcspace⟩, front, d, hd, hdspace⟩ := h
  have hspaces : ∀ c ∈ indentation indent, isPySpace c = true := by
    intro c hc
    rw [List.eq_of_mem_replicate hc]
    rfl
  have hfirst : (indentation indent ++ text).dropWhile isPySpace = text := by
    rw [List.dropWhile_append_of_pos hspaces, hc, List.dropWhile_cons, hcspace,
      if_neg Bool.false_ne_true]
  have hlast : text.reverse.dropWhile isPySpace = text.reverse := by
    rw [hd, List.reverse_append, List.reverse_singleton, List.singleton_append, List.dropWhile_cons,
      hdspace, if_neg Bool.false_ne_true]
  rw [stripLine, pyStrip, String.toList_ofList, String.toList_ofList, hfirst, hlast,
    List.reverse_reverse]

theorem tight_enclosed (opening close : Char) (hopening : isPySpace opening = false)
    (hclose : isPySpace close = false) (middle : List Char) :
    Tight (opening :: (middle ++ [close])) :=
  ⟨⟨opening, _, rfl, hopening⟩, opening :: middle, close, rfl, hclose⟩

theorem tight_singleton (h : isPySpace c = false) : Tight [c] :=
  ⟨⟨c, [], rfl, h⟩, [], c, rfl, h⟩

theorem isPySpace_of_isDigit (h : c.isDigit = true) : isPySpace c = false := by
  simp only [Char.isDigit, Bool.and_eq_true, decide_eq_true_eq, ge_iff_le, UInt32.le_iff_toNat_le] at h
  obtain ⟨hlow, hhigh⟩ := h
  unfold isPySpace Char.toNat
  simp at hlow hhigh ⊢
  omega

theorem EndsTight.append {text : List Char} (h : EndsTight text) (before : List Char) :
    EndsTight (before ++ text) := by
  obtain ⟨front, c, rfl, hc⟩ := h
  exact ⟨before ++ front, c, (List.append_assoc before front [c]).symm, hc⟩

theorem endsTight_digits {digits : List Char} (h : IsDigits digits) : EndsTight digits :=
  ⟨digits.dropLast, digits.getLast h.1, (List.dropLast_append_getLast h.1).symm,
    isPySpace_of_isDigit (h.2 _ (List.getLast_mem h.1))⟩

theorem tight_number {integer fraction exponent : List Char} (hinteger : IsInteger integer)
    (hfraction : IsFraction fraction) (hexponent : IsExponent exponent) :
    Tight (integer ++ fraction ++ exponent) := by
  constructor
  · obtain ⟨c, tail, rfl, hstart⟩ := hinteger.starts
    refine ⟨c, tail ++ fraction ++ exponent, rfl, ?_⟩
    rcases hstart with hc | ⟨rfl, -⟩
    · exact isPySpace_of_isDigit hc
    · rfl
  · rcases hexponent with rfl | ⟨mark, sign, digits, -, -, hdigits, rfl⟩
    · rw [List.append_nil]
      rcases hfraction with rfl | ⟨digits, hdigits, rfl⟩
      · rw [List.append_nil]
        obtain ⟨digits, hwhole, rfl | rfl⟩ := hinteger
        · exact endsTight_digits hwhole.isDigits
        · exact (endsTight_digits hwhole.isDigits).append ['-']
      · exact ((endsTight_digits hdigits).append ['.']).append integer
    · exact ((endsTight_digits hdigits).append (mark :: sign)).append (integer ++ fraction)

theorem tight_dumpsAtom {texts : FloatTexts} {value : PyValue} (hatom : IsAtom value = true)
    (h : AtomReadsBack texts value) : Tight (dumpsAtom texts value) := by
  have hword : ∀ (opening close : Char) (middle : List Char), isPySpace opening = false →
      isPySpace close = false → Tight (opening :: (middle ++ [close])) :=
    fun opening close middle hopening hclose => tight_enclosed opening close hopening hclose middle
  cases value with
  | none => exact hword 'n' 'l' ['u', 'l'] rfl rfl
  | bool b =>
    cases b with
    | true => exact hword 't' 'e' ['r', 'u'] rfl rfl
    | false => exact hword 'f' 'e' ['a', 'l', 's'] rfl rfl
  | int z =>
    have htight := tight_number (isInteger_dumpsInt z) (.inl rfl) (.inl rfl)
    rwa [List.append_nil, List.append_nil] at htight
  | float x =>
    cases x with
    | finite x =>
      obtain ⟨integer, fraction, exponent, hrepr, hinteger, hfraction, hexponent, -⟩ := h.shape
      rw [dumpsAtom, hrepr]
      exact tight_number hinteger hfraction hexponent
    | posInf => exact hword 'I' 'y' ['n', 'f', 'i', 'n', 'i', 't'] rfl rfl
    | negInf => exact hword '-' 'y' ['I', 'n', 'f', 'i', 'n', 'i', 't'] rfl rfl
    | nan => exact hword 'N' 'N' ['a'] rfl rfl
  | str s => exact hword '"' '"' (s.toList.flatMap escapeChar) rfl rfl
  | list items => cases hatom
  | dict entries => cases hatom

/-! ### What comes back -/

/-- The same value, but for the order of the keys of its objects. -/
inductive SameData : PyValue → PyValue → Prop
  | atom (value : PyValue) (h : IsAtom value = true) : SameData value value
  | list (items items' : List PyValue) (h : List.Forall₂ SameData items items') :
    SameData (.list items) (.list items')
  | dict (entries entries' : Entries)
    (hkeys : (entries.map Prod.fst).Perm (entries'.map Prod.fst))
    (h : ∀ key value value', dictGet entries key = some value →
      dictGet entries' key = some value' → SameData value value') :
    SameData (.dict entries) (.dict entries')

theorem lookup_of_mem {α : Type} {entries : List (String × α)}
    (hnodup : (entries.map Prod.fst).Nodup) {item : String × α} (h : item ∈ entries) :
    entries.lookup item.1 = some item.2 := by
  obtain ⟨before, after, rfl⟩ := List.append_of_mem h
  rw [List.lookup_eq_some_iff]
  refine ⟨before, after, rfl, ?_⟩
  intro other hother
  rw [List.map_append, List.nodup_append] at hnodup
  exact bne_iff_ne.mpr (hnodup.2.2 _ (List.mem_map_of_mem hother) _ List.mem_cons_self).symm

theorem mem_orderedObjectItems {α : Type} (objectLayout : Option ObjectLayout)
    {entries : List (String × α)} (hnodup : (entries.map Prod.fst).Nodup) {item : String × α} :
    item ∈ orderedObjectItems objectLayout entries ↔ item ∈ entries := by
  cases objectLayout with
  | none => exact Iff.rfl
  | some objectLayout =>
    rw [orderedObjectItems, List.mem_append, List.mem_filterMap, List.mem_filter]
    constructor
    · rintro (⟨key, -, h⟩ | ⟨h, -⟩)
      · obtain ⟨value, hvalue, rfl⟩ := Option.map_eq_some_iff.mp h
        obtain ⟨before, after, rfl, -⟩ := List.lookup_eq_some_iff.mp hvalue
        exact List.mem_append_right before List.mem_cons_self
      · exact h
    · intro h
      by_cases hkey : item.1 ∈ objectLayout.keys
      · exact .inl ⟨item.1, hkey, by rw [lookup_of_mem hnodup h]; rfl⟩
      · exact .inr ⟨h, decide_eq_true hkey⟩

theorem orderedObjectItems_ne_nil {α : Type} (objectLayout : Option ObjectLayout)
    {entries : List (String × α)} (hnodup : (entries.map Prod.fst).Nodup) (hne : entries ≠ []) :
    orderedObjectItems objectLayout entries ≠ [] := by
  obtain ⟨item, items, rfl⟩ := List.exists_cons_of_ne_nil hne
  exact List.ne_nil_of_mem ((mem_orderedObjectItems objectLayout hnodup).mpr List.mem_cons_self)

/-! ### The round trip -/

mutual

/-- The finite floats of a value. -/
def floatsOf : PyValue → List ℚ
  | .float (.finite x) => [x]
  | .list items => floatsOfItems items
  | .dict entries => floatsOfEntries entries
  | _ => []

def floatsOfItems : List PyValue → List ℚ
  | [] => []
  | value :: items => floatsOf value ++ floatsOfItems items

def floatsOfEntries : Entries → List ℚ
  | [] => []
  | (_, value) :: entries => floatsOf value ++ floatsOfEntries entries

end

/-- The texts of the floats of a value are read back, as the language documents. -/
def FloatsReadBack (texts : FloatTexts) (value : PyValue) : Prop :=
  ∀ x ∈ floatsOf value, texts.ReadsBack x

theorem floatsReadBack_item {texts : FloatTexts} {items : List PyValue}
    (h : FloatsReadBack texts (.list items)) : ∀ value ∈ items, FloatsReadBack texts value := by
  have hall : ∀ items : List PyValue, (∀ x ∈ floatsOfItems items, texts.ReadsBack x) →
      ∀ value ∈ items, FloatsReadBack texts value := by
    intro items
    induction items with
    | nil => exact fun _ value hvalue => absurd hvalue List.not_mem_nil
    | cons value items ih =>
      intro h
      rw [floatsOfItems] at h
      exact List.forall_mem_cons.mpr ⟨fun x hx => h x (List.mem_append_left _ hx),
        ih fun x hx => h x (List.mem_append_right _ hx)⟩
  exact hall items h

theorem floatsReadBack_entry {texts : FloatTexts} {entries : Entries}
    (h : FloatsReadBack texts (.dict entries)) :
    ∀ entry ∈ entries, FloatsReadBack texts entry.2 := by
  have hall : ∀ entries : Entries, (∀ x ∈ floatsOfEntries entries, texts.ReadsBack x) →
      ∀ entry ∈ entries, FloatsReadBack texts entry.2 := by
    intro entries
    induction entries with
    | nil => exact fun _ entry hentry => absurd hentry List.not_mem_nil
    | cons entry entries ih =>
      intro h
      rw [floatsOfEntries] at h
      exact List.forall_mem_cons.mpr ⟨fun x hx => h x (List.mem_append_left _ hx),
        ih fun x hx => h x (List.mem_append_right _ hx)⟩
  exact hall entries h

theorem atomReadsBack {texts : FloatTexts} {value : PyValue} (h : FloatsReadBack texts value) :
    AtomReadsBack texts value := by
  unfold AtomReadsBack
  split
  · exact h _ (by simp [floatsOf])
  · trivial

/-- What the lines of a value say: behind the indentation they denote the value. -/
structure Rendered (texts : FloatTexts) (lines : List Line) (indent : ℕ) (value : PyValue) :
    Prop where
  denotes : ∃ first more, lines = (indentation indent ++ first) :: more ∧ Tight first ∧
    Denotes texts (joinLines (first :: more)) value

section

variable {texts : FloatTexts} {indent : ℕ}

variable {line : Line} {lines : List Line} {entries : Entries} {back : String × PyValue → PyValue}
  {items : List PyValue} {path : Path}

theorem rendered_line {value : PyValue} (htight : Tight line)
    (h : Denotes texts line value) : Rendered texts [indentation indent ++ line] indent value :=
  ⟨line, [], rfl, htight, h⟩

theorem Rendered.holds {value : PyValue} (h : Rendered texts lines indent value) :
    Holds (Denotes texts) lines value := by
  obtain ⟨first, more, rfl, -, hdenotes⟩ := h.denotes
  exact ⟨List.cons_ne_nil _ _, indentation indent, _, isSpaces_indentation indent,
    joinLines_append_cons _ _ _, hdenotes⟩

def DenotesEntry (texts : FloatTexts) (text : List Char) (entry : String × PyValue) : Prop :=
  ∃ valueText, text = memberText entry.1 valueText ∧ Denotes texts valueText entry.2

theorem Rendered.holdsEntry {value : PyValue}
    (h : Rendered texts lines indent value) (key : String) :
    Holds (DenotesEntry texts) (entryLines indent key lines) (key, value) := by
  obtain ⟨first, more, rfl, htight, hdenotes⟩ := h.denotes
  refine ⟨List.cons_ne_nil _ _, indentation indent, memberText key (joinLines (first :: more)),
    isSpaces_indentation indent, ?_, _, rfl, hdenotes⟩
  have hmember : memberText key first = dumpsStr key ++ [':', ' '] ++ first := by
    simp [memberText]
  rw [entryLines, stripLine_indented indent htight, joinLines_append_cons, hmember,
    joinLines_append_cons]
  simp [memberText]

theorem lookup_map_entries {α β : Type} (g : String × α → β) (entries : List (String × α))
    (key : String) :
    (entries.map fun entry => (entry.1, g entry)).lookup key =
      (entries.lookup key).map fun value => g (key, value) := by
  induction entries with
  | nil => rfl
  | cons entry entries ih =>
    obtain ⟨name, value⟩ := entry
    rw [List.map_cons, List.lookup_cons, List.lookup_cons, ih]
    by_cases hkey : key = name
    · rw [hkey, beq_self_eq_true]
      rfl
    · rw [beq_false_of_ne hkey]

theorem orderedObjectItems_map {α β : Type} (objectLayout : Option ObjectLayout)
    (g : String × α → β) (entries : List (String × α)) :
    orderedObjectItems objectLayout (entries.map fun entry => (entry.1, g entry)) =
      (orderedObjectItems objectLayout entries).map fun entry => (entry.1, g entry) := by
  cases objectLayout with
  | none => rfl
  | some objectLayout =>
    rw [orderedObjectItems, orderedObjectItems, List.map_append, List.map_filterMap, List.filter_map]
    refine congrArg₂ _ (List.filterMap_congr fun key _ => ?_) rfl
    rw [lookup_map_entries, Option.map_map, Option.map_map]
    rfl

/-- **The entries that come back are the ones of the object**, in another order. -/
theorem sameData_dictOf (objectLayout : Option ObjectLayout) (hnodup : (entries.map Prod.fst).Nodup)
    (h : ∀ entry ∈ entries, SameData entry.2 (back entry)) :
    SameData (.dict entries) (.dict (dictOf
      ((orderedObjectItems objectLayout entries).map fun entry => (entry.1, back entry)))) := by
  have hkeys : (entries.map fun entry => (entry.1, back entry)).map Prod.fst =
      entries.map Prod.fst := by
    rw [List.map_map]
    rfl
  have hnodup' : ((entries.map fun entry => (entry.1, back entry)).map Prod.fst).Nodup := by
    rwa [hkeys]
  rw [← orderedObjectItems_map]
  obtain ⟨hperm, hget⟩ := dictOf_spec hnodup' fun pair =>
    mem_orderedObjectItems objectLayout hnodup'
  rw [hkeys] at hperm
  refine .dict _ _ hperm fun key value value' hvalue hvalue' => ?_
  have hmem := mem_of_dictGet hvalue
  have hback := dictGet_of_mem hnodup' (List.mem_map_of_mem hmem)
  rw [hget, hback] at hvalue'
  rw [← Option.some.inj hvalue']
  exact h _ hmem

theorem denotes_inlineObject (items : Entries)
    (h : ∀ entry ∈ items, Denotes texts (dumpsAtom texts entry.2) entry.2) :
    Denotes texts ('\x7b' :: ' ' :: (joinItems (items.map fun entry =>
      memberText entry.1 (dumpsAtom texts entry.2)) ++ [' ', '\x7d'])) (.dict (dictOf items)) := by
  rcases eq_or_ne items [] with rfl | hne
  · exact denotes_emptyDict (isSpaces_indentation 2)
  · let text := fun entry : String × PyValue => memberText entry.1 (dumpsAtom texts entry.2)
    have hdenotes := denotes_dict (inlineItems_ne_nil text id [' '] hne) (fun item hitem => by
      obtain ⟨hspace, entry, hentry, htext, hvalue⟩ :=
        mem_inlineItems text id [' '] (isSpaces_indentation 1) hitem
      refine ⟨hspace, dumpsAtom texts entry.2, ?_, ?_⟩
      · rw [htext, hvalue]
        rfl
      · rw [hvalue]
        exact h entry hentry) (isSpaces_indentation 1)
    rw [itemsText_inlineItems text id [' '] hne, values_inlineItems, List.map_id] at hdenotes
    exact hdenotes

theorem denotes_inlineList (hne : items ≠ [])
    (h : ∀ value ∈ items, Denotes texts (dumpsAtom texts value) value) :
    Denotes texts ('[' :: (joinItems (items.map (dumpsAtom texts)) ++ [']'])) (.list items) := by
  have hdenotes := denotes_list (inlineItems_ne_nil (dumpsAtom texts) id [] hne)
    (fun item hitem => by
      obtain ⟨hspace, value, hvalue, htext, hid⟩ :=
        mem_inlineItems (dumpsAtom texts) id [] (isSpaces_indentation 0) hitem
      refine ⟨hspace, ?_⟩
      rw [htext, hid]
      exact h value hvalue) (isSpaces_indentation 0)
  rw [itemsText_inlineItems (dumpsAtom texts) id [] hne, values_inlineItems, List.map_id] at hdenotes
  exact hdenotes

theorem rendered_inlineObject {objectLayout : Option ObjectLayout}
    (hnodup : (entries.map Prod.fst).Nodup)
    (hfloats : ∀ entry ∈ entries, AtomReadsBack texts entry.2)
    (hline : renderInlineObject texts objectLayout entries = some line) :
    ∃ back, SameData (.dict entries) back ∧
      Rendered texts [indentation indent ++ line] indent back := by
  unfold renderInlineObject at hline
  split at hline
  · split at hline
    · rename_i hatoms
      obtain rfl := Option.some.inj hline
      have hitems : ∀ entry ∈ orderedObjectItems objectLayout entries,
          IsAtom entry.2 = true ∧ entry ∈ entries := fun entry hentry =>
        ⟨List.all_eq_true.mp hatoms entry hentry, (mem_orderedObjectItems objectLayout hnodup).mp hentry⟩
      have hsame : ∀ entry ∈ entries, SameData entry.2 entry.2 := fun entry hentry =>
        .atom _ (hitems entry ((mem_orderedObjectItems objectLayout hnodup).mpr hentry)).1
      have hback := sameData_dictOf objectLayout hnodup hsame
      rw [List.map_id'' fun _ => rfl] at hback
      refine ⟨_, hback, rendered_line ?_ ?_⟩
      · have htight := tight_enclosed '\x7b' '\x7d' rfl rfl
          (' ' :: (joinItems ((orderedObjectItems objectLayout entries).map fun entry =>
            memberText entry.1 (dumpsAtom texts entry.2)) ++ [' ']))
        simpa using htight
      · have hdenotes : ∀ entry ∈ orderedObjectItems objectLayout entries,
            Denotes texts (dumpsAtom texts entry.2) entry.2 := fun entry hentry =>
          denotes_dumpsAtom (hitems entry hentry).1 (hfloats entry (hitems entry hentry).2)
        exact denotes_inlineObject _ hdenotes
    · cases hline
  · cases hline

theorem rendered_inlineList (hne : items ≠ [])
    (hfloats : ∀ value ∈ items, AtomReadsBack texts value)
    (hline : renderInlineList texts path indent items = some line) :
    ∃ back, SameData (.list items) back ∧
      Rendered texts [indentation indent ++ line] indent back := by
  unfold renderInlineList at hline
  dsimp only at hline
  split at hline
  · cases hline
  · split at hline
    · rename_i hfits
      obtain rfl := Option.some.inj hline
      have hatoms := List.all_eq_true.mp hfits.1
      have hsame : List.Forall₂ SameData items items :=
        List.forall₂_same.mpr fun value hvalue => .atom value (hatoms value hvalue)
      refine ⟨_, .list _ _ hsame, rendered_line ?_ ?_⟩
      · exact tight_enclosed '[' ']' rfl rfl _
      · exact denotes_inlineList hne fun value hvalue =>
          denotes_dumpsAtom (hatoms value hvalue) (hfloats value hvalue)
    · cases hline

theorem rendered_listLines {β : Type} {items : List β} (hne : items ≠ []) {lines : β → List Line}
    {back : β → PyValue} (h : ∀ item ∈ items, Rendered texts (lines item) (indent + 2) (back item)) :
    Rendered texts (((items.map lines).foldl (fun state child => addItem state 0 child)
      ([indentation indent ++ ['[']], false)).1 ++ [indentation indent ++ [']']]) indent
      (.list (items.map back)) := by
  obtain ⟨done, hvalues, hdone, hstands⟩ :=
    (Stands.start : Stands '[' indent _ ([] : List (Item PyValue))).run
      (P := Denotes texts) (fun _ : β => 0) lines back items
      fun item hitem => (h item hitem).holds
  rw [List.nil_append] at hstands
  have hdoneNe : done ≠ [] := by
    rintro rfl
    exact hne (List.map_eq_nil_iff.mp hvalues.symm)
  obtain ⟨body, hlines, hjoin⟩ := hstands.close hdoneNe ']'
  refine ⟨['['], body, ?_, tight_singleton rfl, ?_⟩
  · rw [List.foldl_map]
    exact hlines
  · rw [hjoin, ← hvalues]
    exact denotes_list hdoneNe hdone (isSpaces_newline (isSpaces_indentation indent))

theorem rendered_objectLines (objectLayout : Option ObjectLayout) {items : Entries} (hne : items ≠ [])
    {lines : String × PyValue → List Line}
    (h : ∀ entry ∈ items, Rendered texts (lines entry) (indent + 2) (back entry)) :
    Rendered texts (((items.map fun entry => (entry.1, lines entry)).foldl (fun state child =>
        addItem state (blankLinesBefore objectLayout child.1)
          (entryLines (indent + 2) child.1 child.2))
        ([indentation indent ++ ['\x7b']], false)).1 ++ [indentation indent ++ ['\x7d']]) indent
      (.dict (dictOf (items.map fun entry => (entry.1, back entry)))) := by
  obtain ⟨done, hvalues, hdone, hstands⟩ :=
    (Stands.start : Stands '\x7b' indent _ ([] : List (Item (String × PyValue)))).run
      (P := DenotesEntry texts) (fun entry : String × PyValue => blankLinesBefore objectLayout entry.1)
      (fun entry => entryLines (indent + 2) entry.1 (lines entry))
      (fun entry => (entry.1, back entry)) items
      fun entry hentry => (h entry hentry).holdsEntry entry.1
  rw [List.nil_append] at hstands
  have hdoneNe : done ≠ [] := by
    rintro rfl
    exact hne (List.map_eq_nil_iff.mp hvalues.symm)
  obtain ⟨body, hlines, hjoin⟩ := hstands.close hdoneNe '\x7d'
  refine ⟨['\x7b'], body, ?_, tight_singleton rfl, ?_⟩
  · rw [List.foldl_map]
    exact hlines
  · rw [hjoin, ← hvalues]
    exact denotes_dict hdoneNe hdone (isSpaces_newline (isSpaces_indentation indent))

variable (layout : Layout)

theorem renderEntries_eq (path : Path) (indent : ℕ) (entries : Entries) :
    renderEntries texts layout path indent entries = entries.map fun entry =>
      (entry.1, renderJsonValue texts layout (path ++ [.key entry.1]) indent entry.2) := by
  induction entries with
  | nil => rfl
  | cons entry entries ih => rw [renderEntries, ih, List.map_cons]

theorem renderItems_eq (path : Path) (indent index : ℕ) (items : List PyValue) :
    renderItems texts layout path indent index items = (items.zipIdx index).map fun item =>
      renderJsonValue texts layout (path ++ [.index item.2]) indent item.1 := by
  induction items generalizing index with
  | nil => rfl
  | cons value items ih => rw [renderItems, ih, List.zipIdx_cons, List.map_cons]

theorem rendered_dict (hnodup : (entries.map Prod.fst).Nodup)
    (hfloats : ∀ entry ∈ entries, AtomReadsBack texts entry.2)
    (ih : ∀ entry ∈ entries, ∀ path indent, ∃ back, SameData entry.2 back ∧
      Rendered texts (renderJsonValue texts layout path indent entry.2) indent back) :
    ∃ back, SameData (.dict entries) back ∧
      Rendered texts (renderJsonValue texts layout path indent (.dict entries)) indent back := by
  rw [renderJsonValue, renderEntries_eq, renderObject]
  cases hline : renderInlineObject texts (layoutForPath layout path) entries with
  | some line => exact rendered_inlineObject hnodup hfloats hline
  | none =>
    rcases eq_or_ne entries [] with rfl | hne
    · exact ⟨.dict [], .dict [] [] (List.Perm.refl _) (fun _ _ _ h => by cases h),
        rendered_line (tight_enclosed '\x7b' '\x7d' rfl rfl [])
          (denotes_emptyDict (isSpaces_indentation 0))⟩
    · dsimp only
      have hempty : ¬entries.isEmpty = true := fun h => hne (List.isEmpty_iff.mp h)
      rw [if_neg hempty, orderedObjectItems_map]
      have : Nonempty PyValue := ⟨.none⟩
      choose! back hsame hrendered using fun entry hentry =>
        ih entry hentry (path ++ [.key entry.1]) (indent + 2)
      refine ⟨_, sameData_dictOf (layoutForPath layout path) hnodup hsame, ?_⟩
      exact rendered_objectLines _ (orderedObjectItems_ne_nil _ hnodup hne) fun entry hentry =>
        hrendered entry ((mem_orderedObjectItems _ hnodup).mp hentry)

theorem rendered_list (hfloats : ∀ value ∈ items, AtomReadsBack texts value)
    (ih : ∀ value ∈ items, ∀ path indent, ∃ back, SameData value back ∧
      Rendered texts (renderJsonValue texts layout path indent value) indent back) :
    ∃ back, SameData (.list items) back ∧
      Rendered texts (renderJsonValue texts layout path indent (.list items)) indent back := by
  rw [renderJsonValue, renderItems_eq, renderList]
  rcases eq_or_ne items [] with rfl | hne
  · exact ⟨.list [], .list [] [] .nil,
      rendered_line (tight_enclosed '[' ']' rfl rfl []) denotes_emptyList⟩
  · have hempty : ¬items.isEmpty = true := fun h => hne (List.isEmpty_iff.mp h)
    rw [if_neg hempty]
    cases hline : renderInlineList texts path indent items with
    | some line => exact rendered_inlineList hne hfloats hline
    | none =>
      dsimp only
      have : Nonempty PyValue := ⟨.none⟩
      choose! back hsame hrendered using fun (item : PyValue × ℕ) (hitem : item ∈ items.zipIdx 0) =>
        ih item.1 (List.fst_mem_of_mem_zipIdx hitem) (path ++ [.index item.2]) (indent + 2)
      refine ⟨.list ((items.zipIdx 0).map back), .list _ _ ?_, ?_⟩
      · have hforall : List.Forall₂ SameData ((items.zipIdx 0).map Prod.fst)
            ((items.zipIdx 0).map back) := by
          rw [List.forall₂_map_left_iff, List.forall₂_map_right_iff, List.forall₂_same]
          exact hsame
        rwa [List.zipIdx_map_fst] at hforall
      · refine rendered_listLines (fun h => hne ?_) hrendered
        exact List.zipIdx_eq_nil_iff.mp h

/-- **The lines of a value denote it**, whatever the layout. -/
theorem rendered_renderJsonValue (data : PyValue) (hproper : Proper data)
    (hfloats : FloatsReadBack texts data) (path : Path) (indent : ℕ) :
    ∃ back, SameData data back ∧
      Rendered texts (renderJsonValue texts layout path indent data) indent back := by
  induction data using induct generalizing path indent with
  | atom value hatom =>
    have hline : renderJsonValue texts layout path indent value =
        [indentation indent ++ dumpsAtom texts value] := by
      cases value <;> first | rfl | cases hatom
    rw [hline]
    exact ⟨value, .atom value hatom, rendered_line (tight_dumpsAtom hatom (atomReadsBack hfloats))
      (denotes_dumpsAtom hatom (atomReadsBack hfloats))⟩
  | list items ih =>
    have hitems := floatsReadBack_item hfloats
    exact rendered_list layout (fun value hvalue => atomReadsBack (hitems value hvalue))
      fun value hvalue => ih value hvalue (proper_list.mp hproper value hvalue) (hitems value hvalue)
  | dict entries ih =>
    have hentries := floatsReadBack_entry hfloats
    obtain ⟨hnodup, hvalues⟩ := proper_dict.mp hproper
    exact rendered_dict layout hnodup (fun entry hentry => atomReadsBack (hentries entry hentry))
      fun entry hentry => ih entry hentry (hvalues entry hentry) (hentries entry hentry)

end

/-- **A config that is written is read back**, in every layout, but for the order of its keys. -/
theorem loads_renderConfigJson (texts : FloatTexts) (layout : Layout) (data : PyValue)
    (hproper : Proper data) (hfloats : FloatsReadBack texts data) :
    ∃ back, loads texts (renderConfigJson texts layout data) = some back ∧ SameData data back := by
  obtain ⟨back, hsame, hrendered⟩ := rendered_renderJsonValue layout data hproper hfloats [] 0
  obtain ⟨first, more, hlines, -, hdenotes⟩ := hrendered.denotes
  refine ⟨back, ?_, hsame⟩
  rw [renderConfigJson, hlines]
  exact hdenotes.loads_eq (isSpaces_indentation 0) (isSpaces_newlines 1)

def halfTexts : FloatTexts where
  repr _ := ['0', '.', '5']
  float _ := .finite (1 / 2)

theorem halfTexts_readsBack : halfTexts.ReadsBack (1 / 2) where
  shape := ⟨['0'], ['.', '5'], [], rfl, ⟨['0'], .inl rfl, .inl rfl⟩,
    .inr ⟨['5'], ⟨List.cons_ne_nil _ _, by simp⟩, rfl⟩, .inl rfl, by decide⟩
  float := rfl

/-- A template in which the device stands first, on one line, and the system behind a blank line. -/
def deviceFirst : Layout where
  objects := [([], ⟨["device", "system"], [("device", 0), ("system", 1)], false⟩),
    ([.key "device"], ⟨["ip"], [("ip", 0)], true⟩)]
  listItemObjects := []

/-- A config with an entry that the template lacks, and a value of another shape. -/
def unlikeTemplate : PyValue :=
  .dict [("system", .dict [("factor", .float (.finite (1 / 2)))]), ("note", .str "\n\"ü\""),
    ("device", .dict [("ip", .list [.str "10.0.0.1", .none]), ("limits", .dict [])])]

theorem loads_renderConfigJson_unlikeTemplate :
    ∃ back, loads halfTexts (renderConfigJson halfTexts deviceFirst unlikeTemplate) = some back ∧
      SameData unlikeTemplate back :=
  loads_renderConfigJson halfTexts deviceFirst unlikeTemplate
    (by simp [unlikeTemplate, Proper, ProperEntries, ProperItems])
    (by
      intro x hx
      simp only [unlikeTemplate, floatsOf, floatsOfEntries, floatsOfItems, List.append_nil,
        List.mem_singleton] at hx
      rw [hx]
      exact halfTexts_readsBack)

end SolarFlowEms.Config
