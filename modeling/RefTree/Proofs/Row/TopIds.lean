import Mathlib.Data.List.Nodup
import RefTree.Proofs.Row.Identity

namespace RefTree

open Document

/-!
# When top rows share an id

The id of a top row joins the id of the symbol, a word for the kind of the row, and the name of a
property or the integer of a category.  The word comes right after the id of the symbol, which is
the same in all rows, so properties and categories never get into each other's way.  Within each
kind the last part decides.  For a property it is the name with hyphens for blanks, and two names
may become the same in this way.
-/

/-- The id of the row of a property whose name is already written with hyphens. -/
def propertyId (symbol : Symbol) (name : String) : Option String :=
  some (symbol.id ++ "-property-" ++ name)

def categoryId (symbol : Symbol) (number : Int) : Option String :=
  some (symbol.id ++ "-category-" ++ Number.integerText number)

theorem propertyId_injective (symbol : Symbol) : (propertyId symbol).Injective := by
  intro name other equal
  have lists := congrArg String.toList (Option.some.inj equal)
  simp only [String.toList_append] at lists
  exact String.toList_inj.mp (List.append_cancel_left lists)

theorem categoryId_injective (symbol : Symbol) : (categoryId symbol).Injective := by
  intro number other equal
  have lists := congrArg String.toList (Option.some.inj equal)
  simp only [String.toList_append] at lists
  exact Number.integerText_inj (String.toList_inj.mp (List.append_cancel_left lists))

/-- The first letter after the id of the symbol tells a property from a category. -/
theorem propertyId_ne_categoryId (symbol : Symbol) (name : String) (number : Int) :
    propertyId symbol name ≠ categoryId symbol number := by
  intro equal
  have lists := congrArg String.toList (Option.some.inj equal)
  simp only [String.toList_append, List.append_assoc] at lists
  have rests := List.append_cancel_left lists
  simp at rests

theorem propertyRow_id (symbol : Symbol) (property : String × String) :
    (propertyRow symbol property).id = propertyId symbol (hyphenated property.1) :=
  rfl

theorem symbolCategoryRow_id (symbol : Symbol) (entry : String × Int) :
    (symbolCategoryRow symbol entry).id = categoryId symbol entry.2 := by
  rw [categoryId, ← plain_int]
  rfl

/-- The ids of the top rows: those of the properties, and then those of the categories. -/
theorem map_id_of_symbolRows (symbol : Symbol) (properties : List (String × String))
    (categories : List (String × Int)) :
    (properties.map (propertyRow symbol) ++ categories.map (symbolCategoryRow symbol)).map Row.id =
      (properties.map fun property => hyphenated property.1).map (propertyId symbol) ++
        (categories.map Prod.snd).map (categoryId symbol) := by
  simp only [List.map_append, List.map_map, Function.comp_def, propertyRow_id,
    symbolCategoryRow_id]

/-- The top rows of a symbol have different ids exactly if the names of its properties differ after
every blank has become a hyphen and its categories have different integers.  In no case does the row
of a property have the id of the row of a category. -/
theorem top_rows_share_no_id_iff {snapshot : Snapshot} {symbol : Symbol} {rows : List Row}
    (opened : symbolRows snapshot symbol = .ok rows) :
    ∃ properties categories, snapshot.properties symbol.id = .ok properties ∧
      snapshot.categories symbol.id = .ok categories ∧
      ((rows.map Row.id).Nodup ↔
        (properties.map fun property => hyphenated property.1).Nodup ∧
          (categories.map Prod.snd).Nodup) ∧
      ∀ row ∈ rows, row.kind = .property -> ∀ other ∈ rows, other.kind = .category ->
        row.id ≠ other.id := by
  rcases symbolRows_eq_ok_iff.mp opened with ⟨properties, categories, found, listed, rfl⟩
  refine ⟨properties, categories, found, listed, ?_, ?_⟩
  · rw [map_id_of_symbolRows, List.nodup_append, List.nodup_map_iff (propertyId_injective symbol),
      List.nodup_map_iff (categoryId_injective symbol)]
    have apart : ∀ id ∈ (properties.map fun property => hyphenated property.1).map
        (propertyId symbol), ∀ other ∈ (categories.map Prod.snd).map (categoryId symbol),
        id ≠ other := by
      intro id member other otherMember
      rcases List.mem_map.mp member with ⟨name, _, rfl⟩
      rcases List.mem_map.mp otherMember with ⟨number, _, rfl⟩
      exact propertyId_ne_categoryId symbol name number
    exact ⟨fun parts => ⟨parts.1, parts.2.1⟩, fun parts => ⟨parts.1, parts.2, apart⟩⟩
  · intro row member isProperty other otherMember isCategory
    rcases List.mem_append.mp member with first | second
    · rcases List.mem_append.mp otherMember with otherFirst | otherSecond
      · rcases List.mem_map.mp otherFirst with ⟨property, _, rfl⟩
        cases isCategory
      · rcases List.mem_map.mp first with ⟨property, _, rfl⟩
        rcases List.mem_map.mp otherSecond with ⟨entry, _, rfl⟩
        rw [propertyRow_id, symbolCategoryRow_id]
        exact propertyId_ne_categoryId symbol _ _
    · rcases List.mem_map.mp second with ⟨entry, _, rfl⟩
      cases isProperty

namespace AlikeNames

/-- The symbol has one property with a blank in its name, another one that can be chosen, and two
categories with integers that differ in sign only. -/
def snapshot (name : String) : Snapshot where
  members := [("symbols", .object [("s-category", .object [
    ("properties", .object [("category 1", .text "x"), (name, .text "y")]),
    ("reference_types", .object [(usageName, .int 1), (callerName, .int (-1))])])])]

def symbol : Symbol where
  id := "s-category"
  range := none
  displayValue := ""
  tags := []
  nameHash := 0

/-- The names `category 1` and `category-1` give one id, and `category  1` with two blanks another.
None of these is the id of a category. -/
theorem top_rows_of_alike_names :
    (∃ rows, symbolRows (snapshot "category  1") symbol = .ok rows ∧ (rows.map Row.id).Nodup) ∧
    ∃ rows, symbolRows (snapshot "category-1") symbol = .ok rows ∧
      rows.map Row.id = [some "s-category-property-category-1",
        some "s-category-property-category-1", some "s-category-category-1",
        some "s-category-category--1"] ∧
      ¬(rows.map Row.id).Nodup ∧
      ∀ row ∈ rows, row.kind = .property -> ∀ other ∈ rows, other.kind = .category ->
        row.id ≠ other.id := by
  constructor
  · obtain ⟨rows, opened⟩ : ∃ rows, symbolRows (snapshot "category  1") symbol = .ok rows :=
      ⟨_, rfl⟩
    obtain ⟨properties, categories, found, listed, apart_iff, _⟩ := top_rows_share_no_id_iff opened
    refine ⟨rows, opened, apart_iff.mpr ?_⟩
    cases found
    cases listed
    decide
  · obtain ⟨rows, opened, ids⟩ : ∃ rows, symbolRows (snapshot "category-1") symbol = .ok rows ∧
        rows.map Row.id = [some "s-category-property-category-1",
          some "s-category-property-category-1", some "s-category-category-1",
          some "s-category-category--1"] := ⟨_, rfl, rfl⟩
    obtain ⟨properties, categories, found, _, apart_iff, never⟩ := top_rows_share_no_id_iff opened
    refine ⟨rows, opened, ids, ?_, never⟩
    intro apart
    have names := (apart_iff.mp apart).1
    cases found
    revert names
    decide

end AlikeNames

end RefTree
