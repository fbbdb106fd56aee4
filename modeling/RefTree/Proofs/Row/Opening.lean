import RefTree.Proofs.Row.Grouping
import RefTree.Proofs.Snapshot.Queries
import RefTree.Row.Build

namespace RefTree

open Document

/-!
# What opening a row gives

Each kind of row is opened by one function.  Its result is described here once: which query has to
succeed, and which row then stands for which reference.  Later proofs use these descriptions and do
not open the functions again.
-/

/-! ## Single rows -/

namespace Row

theorem leaf_eq_ok_iff {reference : Reference} {id : Option String} {row : Row} :
    leaf reference id = .ok row ↔
      ∃ label, reference.label = .ok label ∧
        row =
          { id
            label
            style := visibilityStyle? reference.tags
            expandable := false
            kind := .reference
            reference := some reference
            source := .none } := by
  unfold leaf
  exact Outcome.bind_pure_eq_ok_iff

/-- A located reference has a leaf. -/
theorem exists_leaf {reference : Reference} (isLocated : reference.IsLocated)
    (id : Option String) : ∃ row, leaf reference id = .ok row := by
  rcases isLocated.exists_label with ⟨label, found⟩
  exact ⟨_, leaf_eq_ok_iff.mpr ⟨label, found, rfl⟩⟩

/-- A row that cannot be opened has no children. -/
theorem children_of_not_expandable {row : Row} (closed : row.expandable = false)
    (snapshot : Snapshot) : row.children snapshot = .ok [] := by
  simp [children, closed]

end Row

theorem fileGroupRow_eq_ok_iff {snapshot : Snapshot} {symbol : Symbol} {category : Category}
    {group : FileGroup} {row : Row} :
    fileGroupRow snapshot (.symbol symbol) category group = .ok row ↔
      ∃ file, snapshot.file group.file = .ok file ∧
        row =
          { id := some (symbol.id ++ "-" ++ category.id.plain ++ "-" ++ group.file)
            label := { text := file.name ++ " (" ++ group.members.length.repr ++ ")" }
            style := some (fileIconClass file.path)
            expandable := true
            kind := .fileGroup
            reference := none
            source := .fileGroup (.symbol symbol) category
              (symbol.id ++ "-" ++ category.id.plain ++ "-" ++ group.file) group.members } := by
  unfold fileGroupRow Focus.id
  exact Outcome.bind_pure_eq_ok_iff

theorem fileGroupRow_kind {snapshot : Snapshot} {symbol : Symbol} {category : Category}
    {group : FileGroup} {row : Row}
    (made : fileGroupRow snapshot (.symbol symbol) category group = .ok row) :
    row.kind = .fileGroup := by
  rcases fileGroupRow_eq_ok_iff.mp made with ⟨_, _, rfl⟩
  rfl

/-- The row of a group opens to the rows of its members, in every snapshot. -/
theorem fileGroupRow_children {snapshot : Snapshot} {symbol : Symbol} {category : Category}
    {group : FileGroup} {row : Row}
    (made : fileGroupRow snapshot (.symbol symbol) category group = .ok row) (now : Snapshot) :
    row.children now =
      fileGroupRows (.symbol symbol) category
        (symbol.id ++ "-" ++ category.id.plain ++ "-" ++ group.file) group.members := by
  rcases fileGroupRow_eq_ok_iff.mp made with ⟨_, _, rfl⟩
  rfl

theorem callerRow_eq_ok_iff {focus : Focus} {category : Category} {caller : Reference}
    {row : Row} :
    callerRow focus category caller = .ok row ↔
      ∃ label, caller.label = .ok label ∧
        row =
          { id := some caller.id
            label
            style := some callerStyle
            expandable := true
            kind := .caller
            reference := some caller
            source := .calls focus category caller } := by
  unfold callerRow
  exact Outcome.bind_pure_eq_ok_iff

theorem callerRow_kind {focus : Focus} {category : Category} {caller : Reference} {row : Row}
    (made : callerRow focus category caller = .ok row) : row.kind = .caller := by
  rcases callerRow_eq_ok_iff.mp made with ⟨_, _, rfl⟩
  rfl

theorem callerRow_expandable {focus : Focus} {category : Category} {caller : Reference}
    {row : Row} (made : callerRow focus category caller = .ok row) : row.expandable = true := by
  rcases callerRow_eq_ok_iff.mp made with ⟨_, _, rfl⟩
  rfl

theorem callerRow_reference {focus : Focus} {category : Category} {caller : Reference} {row : Row}
    (made : callerRow focus category caller = .ok row) : row.reference = some caller := by
  rcases callerRow_eq_ok_iff.mp made with ⟨_, _, rfl⟩
  rfl

/-- The row of a caller opens to the call chain of the caller that it stands for. -/
theorem callerRow_children {focus : Focus} {category : Category} {caller : Reference} {row : Row}
    (made : callerRow focus category caller = .ok row) (now : Snapshot) :
    row.children now = callChainRows now focus category caller := by
  rcases callerRow_eq_ok_iff.mp made with ⟨_, _, rfl⟩
  rfl

/-- A located reference can stand as a caller. -/
theorem exists_callerRow {caller : Reference} (isLocated : caller.IsLocated) (focus : Focus)
    (category : Category) : ∃ row, callerRow focus category caller = .ok row := by
  rcases isLocated.exists_label with ⟨label, found⟩
  exact ⟨_, callerRow_eq_ok_iff.mpr ⟨label, found, rfl⟩⟩

/-! ## Rows below a row -/

/-- A grouped category of a symbol shows one row for each file. -/
theorem categoryRows_grouped_eq_ok_iff {snapshot : Snapshot} {symbol : Symbol}
    {category : Category} {rows : List Row} (grouped : category.isGrouped = true) :
    categoryRows snapshot (.symbol symbol) category = .ok rows ↔
      ∃ references groups, snapshot.references symbol.id category.id = .ok references ∧
        groupByFile references = .ok groups ∧
        List.Forall₂
          (fun group row => fileGroupRow snapshot (.symbol symbol) category group = .ok row)
          groups rows := by
  unfold categoryRows Focus.id
  simp only [Outcome.ok_bind, Outcome.bind_eq_ok_iff, grouped, if_true, Outcome.mapM_eq_ok_iff]
  constructor
  · rintro ⟨references, answered, groups, run, made⟩
    exact ⟨references, groups, answered, run, made⟩
  · rintro ⟨references, groups, answered, run, made⟩
    exact ⟨references, answered, groups, run, made⟩

theorem Category.isGrouped_iff (category : Category) :
    category.isGrouped = true ↔ category.name = callerName ∨ category.name = usageName := by
  simp [isGrouped]

/-- Callers are grouped. -/
theorem isGrouped_caller (id : Int) : (Category.ofEntry (callerName, id)).isGrouped = true := by
  simp [Category.isGrouped, Category.ofEntry]

/-- Any other category of a symbol shows one leaf for each reference. -/
theorem categoryRows_flat_eq_ok_iff {snapshot : Snapshot} {symbol : Symbol}
    {category : Category} {rows : List Row} (flat : category.isGrouped = false) :
    categoryRows snapshot (.symbol symbol) category = .ok rows ↔
      ∃ references, snapshot.references symbol.id category.id = .ok references ∧
        List.Forall₂ (fun reference row => Row.leaf reference none = .ok row)
          references rows := by
  unfold categoryRows Focus.id
  simp only [Outcome.ok_bind, Outcome.bind_eq_ok_iff, flat, Bool.false_eq_true, if_false,
    Outcome.mapM_eq_ok_iff]

/-- A category of a file shows one leaf for each reference. -/
theorem fileCategoryRows_eq_ok_iff {snapshot : Snapshot} {file : FileHandle}
    {category : Category} {rows : List Row} :
    fileCategoryRows snapshot (.file file) category = .ok rows ↔
      ∃ references, snapshot.fileReferences file.id category.id = .ok references ∧
        List.Forall₂ (fun reference row => Row.leaf reference none = .ok row)
          references rows := by
  unfold fileCategoryRows Focus.id
  simp only [Outcome.ok_bind, Outcome.bind_eq_ok_iff, Outcome.mapM_eq_ok_iff]

/-- The call sites below a caller are leaves for its calls to the symbol, in stored order.  A
caller without a category for calls has none. -/
theorem callSiteRows_eq_ok_iff {snapshot : Snapshot} {symbol : Symbol} {caller : Reference}
    {rows : List Row} :
    callSiteRows snapshot (.symbol symbol) caller = .ok rows ↔
      ∃ calls, callsOf snapshot caller = .ok calls ∧
        List.Forall₂
          (fun call row =>
            Row.leaf call (some ("call-" ++ caller.id ++ "-" ++ call.id)) = .ok row)
          ((calls.getD []).filter fun call => call.nameHash == symbol.nameHash) rows := by
  unfold callSiteRows Focus.id
  rw [Outcome.bind_eq_ok_iff]
  constructor
  · rintro ⟨calls, answered, made⟩
    refine ⟨calls, answered, ?_⟩
    cases calls with
    | none =>
        cases made
        exact List.Forall₂.nil
    | some calls =>
        simp only [callsTo_symbol, Outcome.ok_bind, Outcome.mapM_eq_ok_iff] at made
        exact made
  · rintro ⟨calls, answered, made⟩
    refine ⟨calls, answered, ?_⟩
    cases calls with
    | none =>
        cases made
        rfl
    | some calls =>
        simp only [callsTo_symbol, Outcome.ok_bind, Outcome.mapM_eq_ok_iff]
        exact made

/-- Below a caller comes the row that repeats the category, and then the call sites. -/
theorem callChainRows_eq_ok_iff {snapshot : Snapshot} {focus : Focus} {category : Category}
    {caller : Reference} {rows : List Row} :
    callChainRows snapshot focus category caller = .ok rows ↔
      ∃ sites, callSiteRows snapshot focus caller = .ok sites ∧
        rows = recursiveRow category caller :: sites := by
  unfold callChainRows
  exact Outcome.bind_pure_eq_ok_iff

/-- Below a group of callers come the callers. -/
theorem fileGroupRows_caller (focus : Focus) (category : Category) (id : String)
    (members : List Reference) (named : category.name = callerName) :
    fileGroupRows focus category id members = members.mapM (callerRow focus category) :=
  if_pos named

/-- Below any other group come leaves. -/
theorem fileGroupRows_leaf (focus : Focus) (category : Category) (id : String)
    (members : List Reference) (other : category.name ≠ callerName) :
    fileGroupRows focus category id members =
      members.mapM fun reference => Row.leaf reference (some (id ++ "-" ++ reference.id)) :=
  if_neg other

/-- The rows of a group of located references never fail, and they depend on no snapshot. -/
theorem exists_fileGroupRows {members : List Reference}
    (isLocated : ∀ member ∈ members, member.IsLocated) (focus : Focus) (category : Category)
    (id : String) : ∃ rows, fileGroupRows focus category id members = .ok rows := by
  by_cases named : category.name = callerName
  · rw [fileGroupRows_caller focus category id members named]
    exact Outcome.exists_mapM_eq_ok
      (fun member belongs => exists_callerRow (isLocated member belongs) focus category)
  · rw [fileGroupRows_leaf focus category id members named]
    exact Outcome.exists_mapM_eq_ok
      (fun member belongs => Row.exists_leaf (isLocated member belongs) _)

/-! ## The references that rows stand for -/

theorem map_reference_of_leaves {references : List Reference} {id : Reference -> Option String}
    {rows : List Row}
    (made : List.Forall₂ (fun reference row => Row.leaf reference (id reference) = .ok row)
      references rows) : rows.map Row.reference = references.map some := by
  induction made with
  | nil => rfl
  | cons madeFrom _ inductionHypothesis =>
      rcases Row.leaf_eq_ok_iff.mp madeFrom with ⟨_, _, rfl⟩
      rw [List.map_cons, List.map_cons, inductionHypothesis]

theorem map_reference_of_callerRows {focus : Focus} {category : Category}
    {callers : List Reference} {rows : List Row}
    (made : List.Forall₂ (fun caller row => callerRow focus category caller = .ok row)
      callers rows) : rows.map Row.reference = callers.map some := by
  induction made with
  | nil => rfl
  | cons madeFrom _ inductionHypothesis =>
      rw [List.map_cons, List.map_cons, callerRow_reference madeFrom, inductionHypothesis]

/-- The rows of a group stand for its members, in their order. -/
theorem map_reference_of_fileGroupRows {focus : Focus} {category : Category} {id : String}
    {members : List Reference} {rows : List Row}
    (opened : fileGroupRows focus category id members = .ok rows) :
    rows.map Row.reference = members.map some := by
  by_cases named : category.name = callerName
  · rw [fileGroupRows_caller focus category id members named] at opened
    exact map_reference_of_callerRows (Outcome.mapM_eq_ok_iff.mp opened)
  · rw [fileGroupRows_leaf focus category id members named] at opened
    exact map_reference_of_leaves (Outcome.mapM_eq_ok_iff.mp opened)

/-! ## The top of a tree -/

/-- The row of a category in the table of a symbol. -/
def symbolCategoryRow (symbol : Symbol) (entry : String × Int) : Row :=
  categoryRow symbol.id (.ofEntry entry) (.category (.symbol symbol) (.ofEntry entry))

/-- The row of a category in the table of a file. -/
def fileCategoryRow (file : FileHandle) (entry : String × Int) : Row :=
  categoryRow file.id (.ofEntry entry) (.fileCategory (.file file) (.ofEntry entry))

theorem symbolRows_eq_ok_iff {snapshot : Snapshot} {symbol : Symbol} {rows : List Row} :
    symbolRows snapshot symbol = .ok rows ↔
      ∃ properties categories, snapshot.properties symbol.id = .ok properties ∧
        snapshot.categories symbol.id = .ok categories ∧
        rows = properties.map (propertyRow symbol) ++
          categories.map (symbolCategoryRow symbol) := by
  unfold symbolRows
  simp only [Outcome.bind_eq_ok_iff, Outcome.pure_eq_ok, Except.ok.injEq, List.map_map]
  constructor
  · rintro ⟨properties, propertiesFound, categories, categoriesFound, rfl⟩
    exact ⟨properties, categories, propertiesFound, categoriesFound, rfl⟩
  · rintro ⟨properties, categories, propertiesFound, categoriesFound, rfl⟩
    exact ⟨properties, propertiesFound, categories, categoriesFound, rfl⟩

/-- The top rows of a symbol include a row for every category that its record lists. -/
theorem exists_symbolCategoryRow {snapshot : Snapshot} {symbol : Symbol}
    {known : List (String × Int)} {entry : String × Int}
    (listed : snapshot.categories symbol.id = .ok known) (member : entry ∈ known) :
    ∃ tops, focusRows snapshot (.symbol symbol) = .ok tops ∧
      symbolCategoryRow symbol entry ∈ tops := by
  rcases Snapshot.exists_properties_of_categories listed with ⟨properties, found⟩
  refine ⟨_, symbolRows_eq_ok_iff.mpr ⟨properties, known, found, listed, rfl⟩, ?_⟩
  exact List.mem_append.mpr (Or.inr (List.mem_map.mpr ⟨entry, member, rfl⟩))

theorem fileRows_eq_ok_iff {snapshot : Snapshot} {file : FileHandle} {rows : List Row} :
    fileRows snapshot file = .ok rows ↔
      ∃ categories, snapshot.fileCategories file.id = .ok categories ∧
        rows = categories.map (fileCategoryRow file) := by
  unfold fileRows
  simp only [Outcome.bind_pure_eq_ok_iff, List.map_map]
  rfl

end RefTree
