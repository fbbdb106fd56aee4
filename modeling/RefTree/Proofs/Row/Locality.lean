import Mathlib.Data.Set.Defs
import RefTree.Listing
import RefTree.Proofs.Row.Built

namespace RefTree

/-!
# A tree depends only on the records it leads to

Two snapshots are compared that list the same files and hold the same records for a region of
symbols.  If no reference leads out of the region, then the tree of a symbol in the region is the
same in both, at every depth and with every fault: no query is ever made outside the region, and no
query for a symbol looks at what is stored for files.

The argument follows one row at a time.  A row that is opened by a query holds the id that will be
asked for; this id lies in the region, and so do those that the rows below hold.
-/

namespace Snapshot

/-- Two snapshots list the same files and hold the same records for a region of symbols.  What they
hold besides is not compared. -/
structure AgreeOn (region : Set String) (first second : Snapshot) : Prop where
  files : first.table "files" = second.table "files"
  records : ∀ id ∈ region, first.symbolRecord id = second.symbolRecord id

/-- No reference that is found for a symbol of the region leads out of it. -/
def IsClosedOn (region : Set String) (snapshot : Snapshot) : Prop :=
  ∀ id ∈ region, ∀ (category : Int) (found : List Reference),
    snapshot.references id (.int category) = .ok found ->
      ∀ reference ∈ found, reference.id ∈ region

/-- Only the categories that a symbol lists need to be looked at. -/
theorem isClosedOn_of_listed {region : Set String} {snapshot : Snapshot}
    (listed : ∀ id ∈ region, ∀ known, snapshot.categories id = .ok known -> ∀ entry ∈ known,
      ∀ found, snapshot.references id (.int entry.2) = .ok found ->
        ∀ reference ∈ found, reference.id ∈ region) :
    snapshot.IsClosedOn region := by
  intro id inside category found answered
  have opened := answered
  unfold references at opened
  simp only [Outcome.bind_eq_ok_iff] at opened
  rcases opened with ⟨record, recorded, known, tabled, asked⟩
  rcases referencesOf_eq_ok_iff.mp asked with ⟨number, name, same, member, _⟩
  cases same
  have table : snapshot.categories id = .ok known := by
    unfold categories
    rw [recorded, Outcome.ok_bind, tabled]
  exact listed id inside known table (name, category) member found answered

/-! ## Queries in the region -/

namespace AgreeOn

variable {region : Set String} {first second : Snapshot} (agree : first.AgreeOn region second)
include agree

theorem properties_eq {id : String} (inside : id ∈ region) :
    first.properties id = second.properties id := by
  unfold properties
  rw [agree.records id inside]

theorem categories_eq {id : String} (inside : id ∈ region) :
    first.categories id = second.categories id := by
  unfold categories
  rw [agree.records id inside]

theorem references_eq {id : String} (inside : id ∈ region) (category : Document.Value) :
    first.references id category = second.references id category := by
  unfold references
  rw [agree.records id inside]

theorem file_eq (id : String) : first.file id = second.file id := by
  unfold file fileRecord
  rw [agree.files]

end AgreeOn
end Snapshot

/-! ## Rows in the region -/

/-- The ids that a source will ask for lie in a region of symbols. -/
inductive Source.IsWithin (region : Set String) : Source Row -> Prop
  | none : IsWithin region .none
  | category {symbol : Symbol} {entry : String × Int} (inside : symbol.id ∈ region) :
      IsWithin region (.category (.symbol symbol) (.ofEntry entry))
  | fileGroup {symbol : Symbol} {entry : String × Int} {id : String} {members : List Reference}
      (inside : ∀ member ∈ members, member.id ∈ region) :
      IsWithin region (.fileGroup (.symbol symbol) (.ofEntry entry) id members)
  | calls {symbol : Symbol} {entry : String × Int} {caller : Reference}
      (inside : caller.id ∈ region) :
      IsWithin region (.calls (.symbol symbol) (.ofEntry entry) caller)

def Row.IsWithin (region : Set String) (row : Row) : Prop :=
  row.source.IsWithin region

theorem Row.IsLeaf.isWithin {row : Row} (leaf : row.IsLeaf) (region : Set String) :
    row.IsWithin region := by
  unfold IsWithin
  rw [leaf.shape.2.2]
  exact .none

section Within

variable {region : Set String} {snapshot : Snapshot} (closed : snapshot.IsClosedOn region)

theorem isWithin_of_symbolRows {symbol : Symbol} (inside : symbol.id ∈ region) {rows : List Row}
    (opened : focusRows snapshot (.symbol symbol) = .ok rows) :
    ∀ row ∈ rows, row.IsWithin region := by
  rcases symbolRows_eq_ok_iff.mp opened with ⟨properties, categories, _, _, rfl⟩
  intro row member
  rcases List.mem_append.mp member with top | below
  · rcases List.mem_map.mp top with ⟨property, _, rfl⟩
    exact .none
  · rcases List.mem_map.mp below with ⟨entry, _, rfl⟩
    exact .category inside

theorem isWithin_of_fileGroupRows {symbol : Symbol} {entry : String × Int} {id : String}
    {members : List Reference} (inside : ∀ member ∈ members, member.id ∈ region)
    {rows : List Row}
    (opened : fileGroupRows (.symbol symbol) (.ofEntry entry) id members = .ok rows) :
    ∀ row ∈ rows, row.IsWithin region := by
  intro row member
  by_cases named : entry.1 = callerName
  · rw [fileGroupRows_caller _ _ _ _ named] at opened
    rcases Outcome.exists_of_mem_mapM opened member with ⟨caller, belongs, made⟩
    rcases callerRow_eq_ok_iff.mp made with ⟨label, _, rfl⟩
    exact .calls (inside caller belongs)
  · exact (isLeaf_of_fileGroupRows named opened row member).isWithin region

theorem isWithin_of_callChainRows {symbol : Symbol} {entry : String × Int} {caller : Reference}
    (inside : caller.id ∈ region) {rows : List Row}
    (opened : callChainRows snapshot (.symbol symbol) (.ofEntry entry) caller = .ok rows) :
    ∀ row ∈ rows, row.IsWithin region := by
  rcases callChainRows_eq_ok_iff.mp opened with ⟨sites, found, rfl⟩
  intro row member
  rcases List.mem_cons.mp member with rfl | later
  · exact .category inside
  · exact (isLeaf_of_callSiteRows found row later).isWithin region

include closed

theorem isWithin_of_categoryRows {symbol : Symbol} (inside : symbol.id ∈ region)
    {entry : String × Int} {rows : List Row}
    (opened : categoryRows snapshot (.symbol symbol) (.ofEntry entry) = .ok rows) :
    ∀ row ∈ rows, row.IsWithin region := by
  intro row member
  cases grouped : (Category.ofEntry entry).isGrouped with
  | true =>
      rcases (categoryRows_grouped_eq_ok_iff grouped).mp opened with
        ⟨references, groups, answered, run, made⟩
      rcases Outcome.exists_of_mem_right made member with ⟨group, belongs, madeFrom⟩
      rcases fileGroupRow_eq_ok_iff.mp madeFrom with ⟨file, _, rfl⟩
      apply Source.IsWithin.fileGroup
      intro reference listed
      have referenced := groupByFile_members_subset run belongs listed
      exact closed symbol.id inside entry.2 references answered reference referenced
  | false => exact (isLeaf_of_categoryRows grouped opened row member).isWithin region

/-- Opening a row in the region gives rows in the region. -/
theorem Row.IsWithin.children {row : Row} (within : row.IsWithin region) {rows : List Row}
    (opened : row.children snapshot = .ok rows) : ∀ child ∈ rows, child.IsWithin region := by
  unfold Row.children at opened
  unfold IsWithin at within
  split at opened
  · generalize row.source = source at within opened
    cases within with
    | none =>
        cases opened
        intro child member
        cases member
    | category inside => exact isWithin_of_categoryRows closed inside opened
    | fileGroup inside => exact isWithin_of_fileGroupRows inside opened
    | calls inside => exact isWithin_of_callChainRows inside opened
  · cases opened
    intro child member
    cases member

end Within

/-! ## The same rows in both snapshots -/

namespace Snapshot.AgreeOn

variable {region : Set String} {first second : Snapshot} (agree : first.AgreeOn region second)
include agree

theorem focusRows_eq {symbol : Symbol} (inside : symbol.id ∈ region) :
    focusRows first (.symbol symbol) = focusRows second (.symbol symbol) := by
  show symbolRows first symbol = symbolRows second symbol
  unfold symbolRows
  rw [agree.properties_eq inside, agree.categories_eq inside]

theorem categoryRows_eq {symbol : Symbol} (inside : symbol.id ∈ region) (category : Category) :
    categoryRows first (.symbol symbol) category =
      categoryRows second (.symbol symbol) category := by
  have groupRow : fileGroupRow first (.symbol symbol) category =
      fileGroupRow second (.symbol symbol) category := by
    funext group
    unfold fileGroupRow
    rw [agree.file_eq]
  unfold categoryRows Focus.id
  simp only [Outcome.ok_bind]
  rw [agree.references_eq inside, groupRow]

theorem callsOf_eq {caller : Reference} (inside : caller.id ∈ region) :
    callsOf first caller = callsOf second caller := by
  have asked : first.references caller.id = second.references caller.id :=
    funext (agree.references_eq inside)
  unfold callsOf
  rw [agree.categories_eq inside, asked]

theorem children_eq {row : Row} (within : row.IsWithin region) :
    row.children first = row.children second := by
  unfold Row.children
  unfold Row.IsWithin at within
  split
  · generalize row.source = source at within ⊢
    cases within with
    | none => rfl
    | category inside => exact agree.categoryRows_eq inside _
    | fileGroup inside => rfl
    | calls inside =>
        show callChainRows first _ _ _ = callChainRows second _ _ _
        unfold callChainRows callSiteRows
        rw [agree.callsOf_eq inside]
  · rfl

theorem childrenNotes_eq {row : Row} (within : row.IsWithin region) :
    row.childrenNotes first = row.childrenNotes second := by
  unfold Row.childrenNotes
  unfold Row.IsWithin at within
  split
  · generalize row.source = source at within ⊢
    cases within with
    | none => rfl
    | category inside =>
        show (categoryNote first _ _).toOption.toList = (categoryNote second _ _).toOption.toList
        unfold categoryNote Focus.id
        simp only [Outcome.ok_bind]
        rw [agree.references_eq inside]
    | fileGroup inside => rfl
    | calls inside =>
        show (callsNote first _ _).toOption.join.toList =
          (callsNote second _ _).toOption.join.toList
        unfold callsNote
        rw [agree.callsOf_eq inside]
  · rfl

/-- Rows in the region are printed alike, however many levels below them are opened. -/
theorem reports_eq (closed : first.IsClosedOn region) (remaining level : Nat) {rows : List Row}
    (within : ∀ row ∈ rows, row.IsWithin region) :
    reports first remaining level rows = reports second remaining level rows := by
  induction remaining generalizing level rows with
  | zero => rfl
  | succ remaining inductionHypothesis =>
      unfold reports
      apply List.flatMap_congr
      intro row member
      have rowWithin := within row member
      rw [agree.children_eq rowWithin, agree.childrenNotes_eq rowWithin]
      cases opened : row.children second with
      | error fault => rfl
      | ok below =>
          rw [← agree.children_eq rowWithin] at opened
          have belowWithin := rowWithin.children closed opened
          simp only [inductionHypothesis (level + 1) belowWithin]

end Snapshot.AgreeOn

/-- In two snapshots that agree on a region which no reference leads out of, a symbol of the region
has the same top rows, or fails alike, and its tree is printed alike at every depth. -/
theorem symbol_tree_is_local {region : Set String} {first second : Snapshot} {symbol : Symbol}
    (agree : first.AgreeOn region second) (closed : first.IsClosedOn region)
    (inside : symbol.id ∈ region) :
    focusRows first (.symbol symbol) = focusRows second (.symbol symbol) ∧
      ∀ rows, focusRows first (.symbol symbol) = .ok rows ->
        ∀ (depth : Int) (theme : Theme) (style : Option Style),
          treeLines first theme style depth rows = treeLines second theme style depth rows := by
  refine ⟨agree.focusRows_eq inside, ?_⟩
  intro rows shown depth theme style
  have within := isWithin_of_symbolRows inside shown
  unfold treeLines treeReports
  rw [agree.reports_eq closed _ 0 within]

namespace SeparateRegions

open Document

def referenceTo (id : String) : Value :=
  .object [("id", .text id), ("range", .object [("file", .text "f")])]

/-- The functions `a` and `b` call each other.  What uses `a` cannot be read. -/
def records : Members :=
  [("a", .object [
      ("reference_types", .object [(callerName, .int 0), (callsName, .int 1), (usageName, .int 2)]),
      ("references", .object [("0", .list [referenceTo "b"]), ("1", .list [referenceTo "b"]),
        ("2", .null)])]),
    ("b", .object [
      ("reference_types", .object [(callerName, .int 0), (callsName, .int 1)]),
      ("references", .object [("0", .list [referenceTo "a"]), ("1", .list [referenceTo "a"])])])]

/-- One snapshot also holds a function that calls `a`, and categories of the file. -/
def first : Snapshot where
  members := [
    ("files", .object [("f", .object [])]),
    ("symbols", .object (records ++ [("c", .object [
      ("reference_types", .object [(callsName, .int 0)]),
      ("references", .object [("0", .list [referenceTo "a"])])])])),
    ("file_reference_types", .object [("f", .object [("Symbols", .int 0)])])]

/-- The other one holds neither. -/
def second : Snapshot where
  members := [("symbols", .object records), ("files", .object [("f", .object [])])]

def region : Set String :=
  {id | id = "a" ∨ id = "b"}

def symbol : Symbol where
  id := "a"
  range := none
  displayValue := "a"
  tags := []
  nameHash := 0

theorem agreeOn_region : first.AgreeOn region second where
  files := rfl
  records := by
    rintro id (rfl | rfl)
    · rfl
    · rfl

theorem isClosedOn_region : first.IsClosedOn region := by
  have ofA : first.categories "a" = .ok [(callerName, 0), (callsName, 1), (usageName, 2)] := rfl
  have ofB : first.categories "b" = .ok [(callerName, 0), (callsName, 1)] := rfl
  apply Snapshot.isClosedOn_of_listed
  rintro id (rfl | rfl) known listed entry member found answered reference belongs
  · rw [ofA] at listed
    cases listed
    simp only [List.mem_cons, List.not_mem_nil, or_false] at member
    rcases member with rfl | rfl | rfl <;> cases answered
    all_goals
      rw [List.mem_singleton.mp belongs]
      exact Or.inr rfl
  · rw [ofB] at listed
    cases listed
    simp only [List.mem_cons, List.not_mem_nil, or_false] at member
    rcases member with rfl | rfl <;> cases answered
    all_goals
      rw [List.mem_singleton.mp belongs]
      exact Or.inl rfl

/-- The snapshots differ outside the region, and the tree of `a` does not show it. -/
theorem symbol_tree_is_local_for_a :
    first.symbolRecord "c" ≠ second.symbolRecord "c" ∧
      first.fileCategories "f" ≠ second.fileCategories "f" ∧
      first.AgreeOn region second ∧ first.IsClosedOn region ∧ symbol.id ∈ region ∧
      focusRows first (.symbol symbol) = focusRows second (.symbol symbol) ∧
      ∃ rows, focusRows first (.symbol symbol) = .ok rows ∧ rows.length = 3 ∧
        ∀ (depth : Int) (theme : Theme) (style : Option Style),
          treeLines first theme style depth rows = treeLines second theme style depth rows := by
  have inside : symbol.id ∈ region := Or.inl rfl
  rcases symbol_tree_is_local agreeOn_region isClosedOn_region inside with ⟨tops, printed⟩
  refine ⟨?_, ?_, agreeOn_region, isClosedOn_region, inside, tops, _, rfl, rfl, printed _ rfl⟩
  · intro same
    cases same
  · intro same
    cases same

end SeparateRegions

end RefTree
