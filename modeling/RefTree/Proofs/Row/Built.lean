import RefTree.Proofs.Row.Opening

namespace RefTree

/-!
# Rows that the library builds

The rows that the library builds by itself are closed under opening, whatever the snapshot has
become in the meantime.  A host may make rows of its own; nothing is said about those.

A row that is opened by a query remembers the category that it belongs to.  Opening never changes
that category: the rows below have the same one, or they are leaves and have none.  So the callers
of callers are all looked up by the category of the row where browsing began.
-/

namespace Row

/-! ## The kinds of rows below the top -/

/-- A row that stands for one reference and cannot be opened. -/
def IsLeaf (row : Row) : Prop :=
  ∃ reference id, leaf reference id = .ok row

/-- The row of a filled group in a grouped category.  The snapshot that it was made from is not
remembered; only the name and the path of the file came from there. -/
def IsFileGroupOf (entry : String × Int) (row : Row) : Prop :=
  (Category.ofEntry entry).isGrouped = true ∧
    ∃ snapshot symbol group, group.IsFilled ∧
      fileGroupRow snapshot (.symbol symbol) (.ofEntry entry) group = .ok row

/-- The row of a caller that was found by a category. -/
def IsCallerOf (entry : String × Int) (row : Row) : Prop :=
  entry.1 = callerName ∧
    ∃ symbol caller, callerRow (.symbol symbol) (.ofEntry entry) caller = .ok row

/-- A row that repeats the category of callers for one of them. -/
def IsRecursiveOf (entry : String × Int) (row : Row) : Prop :=
  entry.1 = callerName ∧ ∃ caller, row = recursiveRow (.ofEntry entry) caller

/-- The rows that the library builds by itself. -/
inductive IsBuilt : Row -> Prop
  | property (symbol : Symbol) (property : String × String) :
      IsBuilt (propertyRow symbol property)
  | category (symbol : Symbol) (entry : String × Int) : IsBuilt (symbolCategoryRow symbol entry)
  | fileCategory (file : FileHandle) (entry : String × Int) : IsBuilt (fileCategoryRow file entry)
  | fileGroup {entry : String × Int} {row : Row} (shape : row.IsFileGroupOf entry) : IsBuilt row
  | caller {entry : String × Int} {row : Row} (shape : row.IsCallerOf entry) : IsBuilt row
  | recursive {entry : String × Int} {row : Row} (shape : row.IsRecursiveOf entry) : IsBuilt row
  | leaf {row : Row} (shape : row.IsLeaf) : IsBuilt row

/-- A leaf has neither children nor a category, and stands for its reference. -/
theorem IsLeaf.shape {row : Row} (leaf : row.IsLeaf) :
    row.kind = .reference ∧ row.expandable = false ∧ row.source = .none := by
  rcases leaf with ⟨reference, id, made⟩
  rcases leaf_eq_ok_iff.mp made with ⟨label, _, rfl⟩
  exact ⟨rfl, rfl, rfl⟩

end Row

/-- The kind of a built row tells callers from all others. -/
theorem Row.IsBuilt.exists_isCallerOf {row : Row} (built : row.IsBuilt)
    (isCaller : row.kind = .caller) : ∃ entry, row.IsCallerOf entry := by
  cases built with
  | property symbol property => cases isCaller
  | category symbol entry => cases isCaller
  | fileCategory file entry => cases isCaller
  | fileGroup shape =>
      rcases shape with ⟨_, _, _, _, _, made⟩
      rw [fileGroupRow_kind made] at isCaller
      cases isCaller
  | caller shape => exact ⟨_, shape⟩
  | recursive shape =>
      rcases shape with ⟨_, _, rfl⟩
      cases isCaller
  | leaf shape =>
      rw [shape.shape.1] at isCaller
      cases isCaller

theorem Category.ofEntry_inj {first second : String × Int}
    (equal : Category.ofEntry first = Category.ofEntry second) : first = second := by
  have parts := Category.mk.inj equal
  exact Prod.ext parts.1 (Document.Value.int.inj parts.2)

/-! ## What each kind opens to -/

theorem isLeaf_of_forall₂ {references : List Reference} {id : Reference -> Option String}
    {rows : List Row}
    (made : List.Forall₂ (fun reference row => Row.leaf reference (id reference) = .ok row)
      references rows) : ∀ row ∈ rows, row.IsLeaf := by
  intro row member
  rcases Outcome.exists_of_mem_right made member with ⟨reference, _, madeFrom⟩
  exact ⟨reference, id reference, madeFrom⟩

theorem isFileGroupOf_of_categoryRows {snapshot : Snapshot} {symbol : Symbol}
    {entry : String × Int} {rows : List Row}
    (grouped : (Category.ofEntry entry).isGrouped = true)
    (opened : categoryRows snapshot (.symbol symbol) (.ofEntry entry) = .ok rows) :
    ∀ row ∈ rows, row.IsFileGroupOf entry := by
  rcases (categoryRows_grouped_eq_ok_iff grouped).mp opened with
    ⟨references, groups, answered, run, made⟩
  intro row member
  rcases Outcome.exists_of_mem_right made member with ⟨group, belongs, madeFrom⟩
  exact ⟨grouped, snapshot, symbol, group, groupByFile_isFilled run group belongs, madeFrom⟩

theorem isLeaf_of_categoryRows {snapshot : Snapshot} {symbol : Symbol} {entry : String × Int}
    {rows : List Row} (flat : (Category.ofEntry entry).isGrouped = false)
    (opened : categoryRows snapshot (.symbol symbol) (.ofEntry entry) = .ok rows) :
    ∀ row ∈ rows, row.IsLeaf := by
  rcases (categoryRows_flat_eq_ok_iff flat).mp opened with ⟨references, answered, made⟩
  exact isLeaf_of_forall₂ made

theorem isLeaf_of_fileCategoryRows {snapshot : Snapshot} {file : FileHandle}
    {category : Category} {rows : List Row}
    (opened : fileCategoryRows snapshot (.file file) category = .ok rows) :
    ∀ row ∈ rows, row.IsLeaf := by
  rcases fileCategoryRows_eq_ok_iff.mp opened with ⟨references, answered, made⟩
  exact isLeaf_of_forall₂ made

theorem isCallerOf_of_fileGroupRows {symbol : Symbol} {entry : String × Int} {id : String}
    {members : List Reference} {rows : List Row} (named : entry.1 = callerName)
    (opened : fileGroupRows (.symbol symbol) (.ofEntry entry) id members = .ok rows) :
    ∀ row ∈ rows, row.IsCallerOf entry := by
  intro row member
  rw [fileGroupRows_caller (.symbol symbol) (.ofEntry entry) id members named] at opened
  rcases Outcome.exists_of_mem_mapM opened member with ⟨caller, _, madeFrom⟩
  exact ⟨named, symbol, caller, madeFrom⟩

theorem isLeaf_of_fileGroupRows {symbol : Symbol} {entry : String × Int} {id : String}
    {members : List Reference} {rows : List Row} (other : entry.1 ≠ callerName)
    (opened : fileGroupRows (.symbol symbol) (.ofEntry entry) id members = .ok rows) :
    ∀ row ∈ rows, row.IsLeaf := by
  rw [fileGroupRows_leaf (.symbol symbol) (.ofEntry entry) id members other] at opened
  exact isLeaf_of_forall₂ (Outcome.mapM_eq_ok_iff.mp opened)

theorem isLeaf_of_callSiteRows {snapshot : Snapshot} {symbol : Symbol} {caller : Reference}
    {sites : List Row} (opened : callSiteRows snapshot (.symbol symbol) caller = .ok sites) :
    ∀ row ∈ sites, row.IsLeaf := by
  rcases callSiteRows_eq_ok_iff.mp opened with ⟨calls, _, made⟩
  exact isLeaf_of_forall₂ made

/-! ## Opening stays among built rows and in one category -/

namespace Row

/-- The category that a row remembers. -/
def category? (row : Row) : Option Category :=
  match row.source with
  | .category _ category => some category
  | .fileCategory _ category => some category
  | .fileGroup _ category _ _ => some category
  | .calls _ category _ => some category
  | _ => none

theorem IsLeaf.category? {row : Row} (leaf : row.IsLeaf) : row.category? = none := by
  unfold Row.category?
  rw [leaf.shape.2.2]

theorem IsFileGroupOf.category? {entry : String × Int} {row : Row}
    (shape : row.IsFileGroupOf entry) : row.category? = some (.ofEntry entry) := by
  rcases shape with ⟨_, snapshot, symbol, group, _, made⟩
  rcases fileGroupRow_eq_ok_iff.mp made with ⟨file, _, rfl⟩
  rfl

theorem IsCallerOf.category? {entry : String × Int} {row : Row}
    (shape : row.IsCallerOf entry) : row.category? = some (.ofEntry entry) := by
  rcases shape with ⟨_, symbol, caller, made⟩
  rcases callerRow_eq_ok_iff.mp made with ⟨label, _, rfl⟩
  rfl

/-- A row follows a category if the library built it, and it belongs to that category or is a
leaf. -/
def Follows (category : Option Category) (row : Row) : Prop :=
  row.IsBuilt ∧ (row.category? = category ∨ row.category? = none)

theorem IsLeaf.follows {row : Row} (leaf : row.IsLeaf) (category : Option Category) :
    row.Follows category :=
  ⟨.leaf leaf, Or.inr leaf.category?⟩

end Row

theorem cases_of_categoryRows {snapshot : Snapshot} {symbol : Symbol} {entry : String × Int}
    {rows : List Row}
    (opened : categoryRows snapshot (.symbol symbol) (.ofEntry entry) = .ok rows) {row : Row}
    (member : row ∈ rows) : row.IsLeaf ∨ row.IsFileGroupOf entry := by
  cases grouped : (Category.ofEntry entry).isGrouped with
  | true => exact Or.inr (isFileGroupOf_of_categoryRows grouped opened row member)
  | false => exact Or.inl (isLeaf_of_categoryRows grouped opened row member)

/-- What can stand below a row that the library built: a leaf, or a row of the same category, which
is a group, a caller, or the row that repeats the category for a caller. -/
theorem Row.IsBuilt.cases_of_child {row : Row} (built : row.IsBuilt) {snapshot : Snapshot}
    {rows : List Row} (opened : row.children snapshot = .ok rows) {child : Row}
    (member : child ∈ rows) :
    child.IsLeaf ∨ ∃ entry, row.category? = some (.ofEntry entry) ∧
      (child.IsFileGroupOf entry ∨ child.IsCallerOf entry ∨
        ∃ symbol caller, entry.1 = callerName ∧
          callerRow (.symbol symbol) (.ofEntry entry) caller = .ok row ∧
          child = recursiveRow (.ofEntry entry) caller) := by
  cases built with
  | property symbol property =>
      cases opened
      cases member
  | category symbol entry =>
      rcases cases_of_categoryRows opened member with leaf | group
      · exact Or.inl leaf
      · exact Or.inr ⟨entry, rfl, Or.inl group⟩
  | fileCategory file entry => exact Or.inl (isLeaf_of_fileCategoryRows opened child member)
  | @fileGroup entry _ shape =>
      have same := shape.category?
      rcases shape with ⟨_, _, symbol, group, _, made⟩
      rw [fileGroupRow_children made] at opened
      by_cases named : entry.1 = callerName
      · have caller := isCallerOf_of_fileGroupRows named opened child member
        exact Or.inr ⟨entry, same, Or.inr (Or.inl caller)⟩
      · exact Or.inl (isLeaf_of_fileGroupRows named opened child member)
  | @caller entry _ shape =>
      have same := shape.category?
      rcases shape with ⟨named, symbol, caller, made⟩
      rw [callerRow_children made] at opened
      rcases callChainRows_eq_ok_iff.mp opened with ⟨sites, found, rfl⟩
      rcases List.mem_cons.mp member with rfl | later
      · exact Or.inr ⟨entry, same, Or.inr (Or.inr ⟨symbol, caller, named, made, rfl⟩)⟩
      · exact Or.inl (isLeaf_of_callSiteRows found child later)
  | @recursive entry _ shape =>
      rcases shape with ⟨_, caller, rfl⟩
      rcases cases_of_categoryRows opened member with leaf | group
      · exact Or.inl leaf
      · exact Or.inr ⟨entry, rfl, Or.inl group⟩
  | leaf shape =>
      rw [children_of_not_expandable shape.shape.2.1] at opened
      cases opened
      cases member

/-- Opening a row that the library built gives rows that it builds, in every snapshot, and none of
them belongs to another category. -/
theorem Row.IsBuilt.follows_children {row : Row} (built : row.IsBuilt) {snapshot : Snapshot}
    {rows : List Row} (opened : row.children snapshot = .ok rows) :
    ∀ child ∈ rows, child.Follows row.category? := by
  intro child member
  rcases built.cases_of_child opened member with
    leaf | ⟨entry, same, group | caller | ⟨symbol, caller, named, made, rfl⟩⟩
  · exact leaf.follows _
  · exact ⟨.fileGroup group, Or.inl (group.category?.trans same.symm)⟩
  · exact ⟨.caller caller, Or.inl (caller.category?.trans same.symm)⟩
  · exact ⟨.recursive ⟨named, caller, rfl⟩, Or.inl same.symm⟩

/-- The top rows of every focus are rows that the library builds. -/
theorem isBuilt_of_focusRows {snapshot : Snapshot} {focus : Focus} {rows : List Row}
    (opened : focusRows snapshot focus = .ok rows) : ∀ row ∈ rows, row.IsBuilt := by
  intro row member
  cases focus with
  | symbol symbol =>
      rcases symbolRows_eq_ok_iff.mp opened with ⟨properties, categories, _, _, rfl⟩
      rcases List.mem_append.mp member with first | second
      · rcases List.mem_map.mp first with ⟨property, _, rfl⟩
        exact .property symbol property
      · rcases List.mem_map.mp second with ⟨entry, _, rfl⟩
        exact .category symbol entry
  | file file =>
      rcases fileRows_eq_ok_iff.mp opened with ⟨categories, _, rfl⟩
      rcases List.mem_map.mp member with ⟨entry, _, rfl⟩
      exact .fileCategory file entry
  | other value => cases opened

/-! ## Rows below a row -/

namespace Row

/-- The rows that are reached from a row by opening, all in one snapshot. -/
inductive IsBelow (snapshot : Snapshot) (top : Row) : Row -> Prop
  | self : IsBelow snapshot top top
  | child {row child : Row} {rows : List Row} (above : IsBelow snapshot top row)
      (opened : row.children snapshot = .ok rows) (member : child ∈ rows) :
      IsBelow snapshot top child

/-- However far a built row is followed, the rows below it belong to its category or to none. -/
theorem IsBelow.follows {snapshot : Snapshot} {top row : Row} (below : IsBelow snapshot top row)
    (built : top.IsBuilt) : row.Follows top.category? := by
  induction below with
  | self => exact ⟨built, Or.inl rfl⟩
  | child above opened member inductionHypothesis =>
      rcases inductionHypothesis with ⟨parentBuilt, parentCategory⟩
      rcases parentBuilt.follows_children opened _ member with ⟨childBuilt, childCategory⟩
      refine ⟨childBuilt, ?_⟩
      rcases childCategory with same | none
      · rw [same]
        exact parentCategory
      · exact Or.inr none

end Row
end RefTree
