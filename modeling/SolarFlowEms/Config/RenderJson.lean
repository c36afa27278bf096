import SolarFlowEms.Config.Upgrade
import SolarFlowEms.Library.JsonText

/-!
# Writing a config in the layout of the template

A config is written line by line.  The layout of the template says for each object in which order
its keys stand, how many blank lines stand before a key, and whether the object is written on one
line; what the template does not know comes behind, after a blank line.
-/

namespace SolarFlowEms.Config

open Python Documents Json

abbrev Line := List Char

/-- How the template writes an object. -/
structure ObjectLayout where
  keys : List String
  blankLinesBefore : List (String × ℕ)
  inline : Bool

/-- What `_JsonLayoutParser` reads from a template: the layout of the object at each path, and for
each list that of its first object. -/
structure Layout where
  objects : List (Path × ObjectLayout)
  listItemObjects : List (Path × ObjectLayout)

def isIndex : PathStep → Bool
  | .index _ => true
  | .key _ => false

def layoutForPath (layout : Layout) (path : Path) : Option ObjectLayout :=
  (if path.getLast?.any isIndex then layout.listItemObjects.lookup path.dropLast else none).or
    (layout.objects.lookup path)

def orderedObjectItems {α : Type} (objectLayout : Option ObjectLayout)
    (entries : List (String × α)) : List (String × α) :=
  match objectLayout with
  | none => entries
  | some objectLayout =>
    (objectLayout.keys.filterMap fun key => (entries.lookup key).map fun item => (key, item)) ++
      entries.filter (·.1 ∉ objectLayout.keys)

/-! ### Lines -/

def indentation (indent : ℕ) : Line := List.replicate indent ' '

/-- `line.strip()`. -/
def stripLine (line : Line) : Line := (pyStrip (String.ofList line)).toList

/-- `lines[-1] += text`. -/
def appendToLast : List Line → Line → List Line
  | [], _ => []
  | [line], text => [line ++ text]
  | line :: next :: lines, text => line :: appendToLast (next :: lines) text

/-- `"\n".join(lines)`. -/
def joinLines : List Line → List Char
  | [] => []
  | [line] => line
  | line :: next :: lines => line ++ '\n' :: joinLines (next :: lines)

/-- One turn of the loop over the items of an object or a list: a comma behind the item before,
the blank lines, and the lines of the item. -/
def addItem (state : List Line × Bool) (blankLines : ℕ) (item : List Line) : List Line × Bool :=
  ((if state.2 then appendToLast state.1 [','] ++ List.replicate blankLines [] else state.1) ++ item,
    true)

/-- The blank lines before an entry that is not the first. -/
def blankLinesBefore (objectLayout : Option ObjectLayout) (key : String) : ℕ :=
  match objectLayout with
  | none => 0
  | some objectLayout =>
    if key ∈ objectLayout.keys then (objectLayout.blankLinesBefore.lookup key).getD 0 else 1

def entryLines (indent : ℕ) (key : String) : List Line → List Line
  | [] => []
  | first :: more => (indentation indent ++ memberText key (stripLine first)) :: more

section

variable (texts : FloatTexts)

/-! ### Values -/

/-- `", ".join(items)`. -/
def joinItems : List (List Char) → List Char
  | [] => []
  | [item] => item
  | item :: next :: items => item ++ ',' :: ' ' :: joinItems (next :: items)

/-- `_render_inline_object`, where the layout asks for it. -/
def renderInlineObject (objectLayout : Option ObjectLayout) (entries : Entries) : Option Line :=
  if objectLayout.any ObjectLayout.inline then
    if (orderedObjectItems objectLayout entries).all fun entry => IsAtom entry.2 then
      some ('\x7b' :: ' ' :: (joinItems ((orderedObjectItems objectLayout entries).map fun entry =>
        memberText entry.1 (dumpsAtom texts entry.2)) ++ [' ', '\x7d']))
    else none
  else none

/-- The lines of an object, given those of its values. -/
def renderObject (objectLayout : Option ObjectLayout) (indent : ℕ) (entries : Entries)
    (children : List (String × List Line)) : List Line :=
  match renderInlineObject texts objectLayout entries with
  | some line => [indentation indent ++ line]
  | none =>
    if entries.isEmpty then [indentation indent ++ ['\x7b', '\x7d']]
    else
      ((orderedObjectItems objectLayout children).foldl (fun state child =>
        addItem state (blankLinesBefore objectLayout child.1)
          (entryLines (indent + 2) child.1 child.2))
        ([indentation indent ++ ['\x7b']], false)).1 ++ [indentation indent ++ ['\x7d']]

/-- The list on one line, where it holds scalars, is no comment and fits. -/
def renderInlineList (path : Path) (indent : ℕ) (items : List PyValue) : Option Line :=
  let line := '[' :: (joinItems (items.map (dumpsAtom texts)) ++ [']'])
  if path.getLast?.any (fun step => match step with
      | .key name => isCommentKey name
      | .index _ => false) then none
  else if items.all IsAtom ∧ indent + line.length ≤ 100 then some line
  else none

/-- The lines of a list, given those of its items. -/
def renderList (path : Path) (indent : ℕ) (items : List PyValue) (children : List (List Line)) :
    List Line :=
  if items.isEmpty then [indentation indent ++ ['[', ']']]
  else
    match renderInlineList texts path indent items with
    | some line => [indentation indent ++ line]
    | none =>
      (children.foldl (fun state child => addItem state 0 child)
        ([indentation indent ++ ['[']], false)).1 ++ [indentation indent ++ [']']]

variable (layout : Layout)

mutual

def renderJsonValue (path : Path) (indent : ℕ) : PyValue → List Line
  | .dict entries =>
    renderObject texts (layoutForPath layout path) indent entries
      (renderEntries path (indent + 2) entries)
  | .list items => renderList texts path indent items (renderItems path (indent + 2) 0 items)
  | value => [indentation indent ++ dumpsAtom texts value]

/-- The lines of each value of an object. -/
def renderEntries (path : Path) (indent : ℕ) : Entries → List (String × List Line)
  | [] => []
  | (key, value) :: entries =>
    (key, renderJsonValue (path ++ [.key key]) indent value) :: renderEntries path indent entries

/-- The lines of each item of a list. -/
def renderItems (path : Path) (indent : ℕ) (index : ℕ) : List PyValue → List (List Line)
  | [] => []
  | value :: items =>
    renderJsonValue (path ++ [.index index]) indent value ::
      renderItems path indent (index + 1) items

end

/-- `render_config_json`, with a layout. -/
def renderConfigJson (data : PyValue) : List Char :=
  joinLines (renderJsonValue texts layout [] 0 data) ++ ['\n']

end

end SolarFlowEms.Config
