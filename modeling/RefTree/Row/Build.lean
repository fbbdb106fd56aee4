import RefTree.Row.Expand

namespace RefTree

open Document

/-!
# The top of a tree

A symbol shows its properties and then its categories; a file shows its categories only.  Any other
focus is refused.
-/

def propertyRow (symbol : Symbol) (property : String × String) : Row where
  id := some (symbol.id ++ "-property-" ++ hyphenated property.1)
  label := Label.property property.1 property.2
  style := some (iconClass property.1)
  expandable := false
  kind := .property
  reference := none
  source := .none

def Category.ofEntry (entry : String × Int) : Category where
  name := entry.1
  id := .int entry.2

/-- The row of a category, given its owner and its source. -/
def categoryRow (owner : String) (category : Category) (source : Source Row) : Row where
  id := some (owner ++ "-category-" ++ category.id.plain)
  label := category.label
  style := some category.style
  expandable := true
  kind := .category
  reference := none
  source

def symbolRows (snapshot : Snapshot) (symbol : Symbol) : Except Fault (List Row) := do
  let properties <- snapshot.properties symbol.id
  let categories <- snapshot.categories symbol.id
  return properties.map (propertyRow symbol) ++
    (categories.map Category.ofEntry).map fun category =>
      categoryRow symbol.id category (.category (.symbol symbol) category)

def fileRows (snapshot : Snapshot) (file : FileHandle) : Except Fault (List Row) := do
  let categories <- snapshot.fileCategories file.id
  return (categories.map Category.ofEntry).map fun category =>
    categoryRow file.id category (.fileCategory (.file file) category)

def focusRows (snapshot : Snapshot) : Focus -> Except Fault (List Row)
  | .symbol symbol => symbolRows snapshot symbol
  | .file file => fileRows snapshot file
  | .other value => .error (.unsupportedFocus value.typeWord)

/-- The notes made while the top rows of a focus are built. -/
def focusNotes (snapshot : Snapshot) : Focus -> List Note
  | .symbol symbol =>
      match snapshot.properties symbol.id, snapshot.categories symbol.id with
      | .ok properties, .ok categories =>
          [⟨.building, "symbol " ++ symbol.id ++ ": " ++ properties.length.repr ++
            " properties, " ++ categories.length.repr ++ " categories"⟩]
      | _, _ => []
  | .file file =>
      match snapshot.fileCategories file.id with
      | .ok categories =>
          [⟨.building, "file " ++ file.id ++ ": " ++ categories.length.repr ++ " categories"⟩]
      | .error _ => []
  | .other _ => []

end RefTree
