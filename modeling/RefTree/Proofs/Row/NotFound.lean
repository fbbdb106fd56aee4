import RefTree.Proofs.Row.Built
import RefTree.Proofs.Snapshot.NotFound

namespace RefTree

open Document

/-!
# Which rows cannot be found

As long as the snapshot does not change, opening a row can miss something only in a few places.  A
group looks up the name of its file; a caller looks up its own record; and a row that repeats a
category asks the caller for a category id that was listed by another symbol.  Categories that stand
directly below a focus were listed by the record of that focus, and are found there again.

The rule for a row depends on how the row was made, so it is read off the row above it, or off the
focus if there is none.
-/

/-! ## What can be missing -/

/-- A reference lies in a file that has no record. -/
def Reference.IsAstray (snapshot : Snapshot) (reference : Reference) : Prop :=
  ∃ range, reference.range = some range ∧ ¬snapshot.HasFile range.file

/-- All payloads that are stored for a symbol under a category can be read, and one of the
references lies in a file that has no record. -/
def Snapshot.StoresAstray (snapshot : Snapshot) (symbol : String) (category : Int) : Prop :=
  ∃ record payloads found, snapshot.symbolRecord symbol = .ok record ∧
    Snapshot.storedUnder? (Members.find? "references" record) (.int category) =
      some (.list payloads) ∧
    List.Forall₂ (fun payload reference => Reference.decode payload = .ok reference)
      payloads found ∧
    ∃ reference ∈ found, reference.IsAstray snapshot

namespace Row

/-- What opening a row does not find, by the kind of the row.  A row of any other kind obeys no
rule. -/
def ObeysNotFoundRule (snapshot : Snapshot) (row : Row) : Prop :=
  match row.kind with
  | .property | .reference | .fileGroup => ¬IsNotFound (row.children snapshot)
  | .category =>
      (∃ file category, row.source = .fileCategory (.file file) category ∧
        ¬IsNotFound (row.children snapshot)) ∨
      ∃ symbol name id, row.source = .category (.symbol symbol) (.ofEntry (name, id)) ∧
        (IsNotFound (row.children snapshot) ↔
          (name = callerName ∨ name = usageName) ∧ snapshot.StoresAstray symbol.id id)
  | .caller =>
      ∃ caller, row.reference = some caller ∧
        (IsNotFound (row.children snapshot) ↔ ¬snapshot.HasSymbol caller.id)
  | .recursive =>
      ∃ caller name id, row.reference = some caller ∧
        row.source = .category (.symbol (.ofReference caller)) (.ofEntry (name, id)) ∧
        (IsNotFound (row.children snapshot) ↔
          (∃ known, snapshot.categories caller.id = .ok known ∧
            Snapshot.LacksCategory known id) ∨
          snapshot.StoresAstray caller.id id)
  | .custom _ => False

end Row

/-! ## Rows of references -/

theorem Row.not_isNotFound_leaf (reference : Reference) (id : Option String) :
    ¬IsNotFound (Row.leaf reference id) := by
  unfold leaf
  rw [IsNotFound.bind_pure_iff]
  unfold Reference.label
  rw [IsNotFound.bind_pure_iff]
  unfold Reference.located
  split
  · split
    · simp [Fault.kind]
    · simp
  · simp [Fault.kind]

theorem kind_of_fileGroupRow_eq_error {snapshot : Snapshot} {symbol : Symbol}
    {category : Category} {group : FileGroup} {fault : Fault}
    (failed : fileGroupRow snapshot (.symbol symbol) category group = .error fault) :
    fault.kind = .notFound := by
  unfold fileGroupRow at failed
  rcases Outcome.bind_eq_error_iff.mp failed with early | ⟨file, _, impossible⟩
  · exact Snapshot.kind_of_file_eq_error early
  · cases impossible

/-- The group of a file is not found exactly if the file has no record. -/
theorem fileGroupRow_isNotFound_iff (snapshot : Snapshot) (symbol : Symbol) (category : Category)
    (group : FileGroup) :
    IsNotFound (fileGroupRow snapshot (.symbol symbol) category group) ↔
      ¬snapshot.HasFile group.file := by
  rw [← Snapshot.file_isNotFound_iff]
  exact IsNotFound.bind_pure_iff

/-! ## Rows of categories -/

/-- The groups of located references are not all found exactly if one of the references lies in a
file that has no record. -/
theorem fileGroupRows_isNotFound_iff {snapshot : Snapshot} {symbol : Symbol} {category : Category}
    {found : List Reference} (isLocated : ∀ reference ∈ found, reference.IsLocated) :
    IsNotFound (groupByFile found >>= fun groups =>
        groups.mapM (fileGroupRow snapshot (.symbol symbol) category)) ↔
      ∃ reference ∈ found, reference.IsAstray snapshot := by
  rcases exists_groupByFile isLocated with ⟨groups, grouped⟩
  rw [grouped, Outcome.ok_bind, IsNotFound.mapM_iff fun _ _ => kind_of_fileGroupRow_eq_error]
  simp only [fileGroupRow_isNotFound_iff]
  constructor
  · rintro ⟨group, belongs, missing⟩
    rcases (groupByFile_files_iff grouped group.file).mp ⟨group, belongs, rfl⟩ with
      ⟨reference, member, range, located, same⟩
    exact ⟨reference, member, range, (Reference.located_eq_ok_iff.mp located).1,
      by rw [same]; exact missing⟩
  · rintro ⟨reference, member, range, stored, missing⟩
    rcases isLocated reference member with ⟨other, located⟩
    have same := (Reference.located_eq_ok_iff.mp located).1
    rw [stored] at same
    cases same
    rcases (groupByFile_files_iff grouped range.file).mpr
      ⟨reference, member, range, located, rfl⟩ with ⟨group, belongs, inFile⟩
    exact ⟨group, belongs, by rw [inFile]; exact missing⟩

/-- The rows of a category are not found if its references are not, or else if they are grouped and
one of them lies in a file that has no record. -/
theorem categoryRows_isNotFound_iff (snapshot : Snapshot) (symbol : Symbol) (category : Category) :
    IsNotFound (categoryRows snapshot (.symbol symbol) category) ↔
      IsNotFound (snapshot.references symbol.id category.id) ∨
        category.isGrouped = true ∧
          ∃ found, snapshot.references symbol.id category.id = .ok found ∧
            ∃ reference ∈ found, reference.IsAstray snapshot := by
  unfold categoryRows Focus.id
  rw [Outcome.ok_bind, IsNotFound.bind_iff]
  apply or_congr_right
  cases grouped : category.isGrouped with
  | true =>
      simp only [if_true, true_and]
      apply exists_congr
      intro found
      apply and_congr_right
      intro answered
      exact fileGroupRows_isNotFound_iff (Snapshot.isLocated_of_references answered)
  | false =>
      simp only [Bool.false_eq_true, if_false, false_and, iff_false]
      rintro ⟨found, _, unfound⟩
      exact IsNotFound.not_mapM (fun reference _ => Row.not_isNotFound_leaf reference none) unfound

theorem fileCategoryRows_isNotFound_iff (snapshot : Snapshot) (file : FileHandle)
    (category : Category) :
    IsNotFound (fileCategoryRows snapshot (.file file) category) ↔
      IsNotFound (snapshot.fileReferences file.id category.id) := by
  unfold fileCategoryRows Focus.id
  rw [Outcome.ok_bind, IsNotFound.bind_iff, or_iff_left_iff_imp]
  rintro ⟨found, _, unfound⟩
  exact absurd unfound
    (IsNotFound.not_mapM fun reference _ => Row.not_isNotFound_leaf reference none)

namespace Snapshot

/-- References that a query returns are those that are stored. -/
theorem storesAstray_of_references {snapshot : Snapshot} {symbol : String} {category : Int}
    {found : List Reference} (answered : snapshot.references symbol (.int category) = .ok found)
    (astray : ∃ reference ∈ found, reference.IsAstray snapshot) :
    snapshot.StoresAstray symbol category := by
  unfold references at answered
  simp only [Outcome.bind_eq_ok_iff] at answered
  rcases answered with ⟨record, recorded, known, _, answered⟩
  rcases referencesOf_eq_ok_iff.mp answered with ⟨_, _, _, _, read⟩
  unfold storedReferences at read
  split at read
  · cases read
    rcases astray with ⟨_, member, _⟩
    cases member
  · rename_i payloads stored
    exact ⟨record, payloads, found, recorded, stored, Outcome.mapM_eq_ok_iff.mp read, astray⟩
  · cases read

/-- If the category is listed, the stored references are those that the query returns. -/
theorem references_of_storesAstray {snapshot : Snapshot} {symbol : String}
    {known : List (String × Int)} {name : String} {category : Int}
    (listed : snapshot.categories symbol = .ok known) (member : (name, category) ∈ known)
    (stores : snapshot.StoresAstray symbol category) :
    ∃ found, snapshot.references symbol (.int category) = .ok found ∧
      ∃ reference ∈ found, reference.IsAstray snapshot := by
  rcases stores with ⟨record, payloads, found, recorded, stored, read, astray⟩
  rw [categories_eq_recorded recorded] at listed
  refine ⟨found, ?_, astray⟩
  rw [references_eq_recorded recorded listed member]
  unfold recordedReferences
  rw [stored]
  exact Outcome.mapM_eq_ok_iff.mpr read

end Snapshot

/-! ## Rows of callers -/

theorem callsOf_isNotFound_iff (snapshot : Snapshot) (caller : Reference) :
    IsNotFound (callsOf snapshot caller) ↔ ¬snapshot.HasSymbol caller.id := by
  rw [← Snapshot.categories_isNotFound_iff]
  unfold callsOf
  rw [IsNotFound.bind_iff, or_iff_left_iff_imp]
  rintro ⟨known, listed, unfound⟩
  split at unfound
  · simp at unfound
  · rename_i entry chosen
    rw [IsNotFound.bind_pure_iff] at unfound
    have member := List.mem_of_find?_eq_some chosen
    exact absurd unfound (Snapshot.not_isNotFound_references listed member)

/-- A caller can only be opened if its table of categories can be read. -/
theorem exists_categories_of_callChainRows {snapshot : Snapshot} {focus : Focus}
    {category : Category} {caller : Reference} {rows : List Row}
    (opened : callChainRows snapshot focus category caller = .ok rows) :
    ∃ known, snapshot.categories caller.id = .ok known := by
  rcases callChainRows_eq_ok_iff.mp opened with ⟨sites, found, _⟩
  rcases Outcome.bind_eq_ok_iff.mp found with ⟨calls, looked, _⟩
  rcases Outcome.bind_eq_ok_iff.mp looked with ⟨known, listed, _⟩
  exact ⟨known, listed⟩

/-- A caller misses nothing but its own record. -/
theorem callChainRows_isNotFound_iff (snapshot : Snapshot) (symbol : Symbol)
    (category : Category) (caller : Reference) :
    IsNotFound (callChainRows snapshot (.symbol symbol) category caller) ↔
      ¬snapshot.HasSymbol caller.id := by
  rw [← callsOf_isNotFound_iff]
  unfold callChainRows
  rw [IsNotFound.bind_pure_iff]
  unfold callSiteRows Focus.id
  rw [IsNotFound.bind_iff, or_iff_left_iff_imp]
  rintro ⟨calls, _, unfound⟩
  cases calls with
  | none => simp at unfound
  | some calls =>
      simp only [callsTo_symbol, Outcome.ok_bind] at unfound
      exact absurd unfound (IsNotFound.not_mapM fun call _ => Row.not_isNotFound_leaf call _)

/-! ## Each kind of row -/

namespace Row

theorem IsLeaf.obeysNotFoundRule {row : Row} (leaf : row.IsLeaf) (snapshot : Snapshot) :
    row.ObeysNotFoundRule snapshot := by
  unfold ObeysNotFoundRule
  rw [leaf.shape.1, children_of_not_expandable leaf.shape.2.1]
  simp

theorem IsFileGroupOf.obeysNotFoundRule {entry : String × Int} {row : Row}
    (shape : row.IsFileGroupOf entry) (snapshot : Snapshot) : row.ObeysNotFoundRule snapshot := by
  rcases shape with ⟨_, _, symbol, group, filled, made⟩
  rcases exists_fileGroupRows filled.isLocated (.symbol symbol) (.ofEntry entry)
    (symbol.id ++ "-" ++ (Category.ofEntry entry).id.plain ++ "-" ++ group.file) with
      ⟨rows, opened⟩
  unfold ObeysNotFoundRule
  rw [fileGroupRow_kind made, fileGroupRow_children made, opened]
  simp

theorem IsCallerOf.obeysNotFoundRule {entry : String × Int} {row : Row}
    (shape : row.IsCallerOf entry) (snapshot : Snapshot) : row.ObeysNotFoundRule snapshot := by
  rcases shape with ⟨_, symbol, caller, made⟩
  unfold ObeysNotFoundRule
  rw [callerRow_kind made, callerRow_children made]
  exact ⟨caller, callerRow_reference made, callChainRows_isNotFound_iff snapshot symbol _ caller⟩

/-- The row that repeats the category finds the table of the caller, but it may not find the
category in it. -/
theorem recursiveRow_obeysNotFoundRule {snapshot : Snapshot} {entry : String × Int}
    {caller : Reference} {known : List (String × Int)} (named : entry.1 = callerName)
    (listed : snapshot.categories caller.id = .ok known) :
    (recursiveRow (.ofEntry entry) caller).ObeysNotFoundRule snapshot := by
  refine ⟨caller, entry.1, entry.2, rfl, rfl, ?_⟩
  have recorded := Snapshot.hasSymbol_of_categories listed
  have grouped := (Category.isGrouped_iff (.ofEntry entry)).mpr (Or.inl named)
  change IsNotFound (categoryRows snapshot (.symbol (.ofReference caller)) (.ofEntry entry)) ↔ _
  rw [categoryRows_isNotFound_iff]
  change IsNotFound (snapshot.references caller.id (.int entry.2)) ∨
    _ ∧ (∃ found, snapshot.references caller.id (.int entry.2) = .ok found ∧ _) ↔ _
  simp only [Snapshot.references_isNotFound_iff, recorded, not_true, false_or, grouped, true_and]
  constructor
  · rintro (lacks | ⟨found, answered, astray⟩)
    · exact Or.inl lacks
    · exact Or.inr (Snapshot.storesAstray_of_references answered astray)
  · rintro (lacks | stores)
    · exact Or.inl lacks
    · by_cases present : ∃ name, (name, entry.2) ∈ known
      · rcases present with ⟨name, member⟩
        exact Or.inr (Snapshot.references_of_storesAstray listed member stores)
      · exact Or.inl ⟨known, listed, not_exists.mp present⟩

theorem symbolCategoryRow_obeysNotFoundRule {snapshot : Snapshot} {symbol : Symbol}
    {known : List (String × Int)} {entry : String × Int}
    (listed : snapshot.categories symbol.id = .ok known) (member : entry ∈ known) :
    (symbolCategoryRow symbol entry).ObeysNotFoundRule snapshot := by
  refine Or.inr ⟨symbol, entry.1, entry.2, rfl, ?_⟩
  have accepted := Snapshot.not_isNotFound_references listed member
  change IsNotFound (categoryRows snapshot (.symbol symbol) (.ofEntry entry)) ↔ _
  rw [categoryRows_isNotFound_iff, Category.isGrouped_iff]
  change IsNotFound (snapshot.references symbol.id (.int entry.2)) ∨
    (entry.1 = callerName ∨ entry.1 = usageName) ∧
      (∃ found, snapshot.references symbol.id (.int entry.2) = .ok found ∧ _) ↔ _
  simp only [accepted, false_or]
  apply and_congr_right
  intro _
  constructor
  · rintro ⟨found, answered, astray⟩
    exact Snapshot.storesAstray_of_references answered astray
  · exact Snapshot.references_of_storesAstray listed member

theorem fileCategoryRow_obeysNotFoundRule {snapshot : Snapshot} {file : FileHandle}
    {known : List (String × Int)} {entry : String × Int}
    (listed : snapshot.fileCategories file.id = .ok known) (member : entry ∈ known) :
    (fileCategoryRow file entry).ObeysNotFoundRule snapshot := by
  refine Or.inl ⟨file, .ofEntry entry, rfl, ?_⟩
  change ¬IsNotFound (fileCategoryRows snapshot (.file file) (.ofEntry entry))
  rw [fileCategoryRows_isNotFound_iff]
  exact Snapshot.not_isNotFound_fileReferences listed member

/-! ## Rows at the top and rows below another one -/

theorem obeysNotFoundRule_of_focusRows {snapshot : Snapshot} {focus : Focus} {tops : List Row}
    (shown : focusRows snapshot focus = .ok tops) :
    ∀ top ∈ tops, top.ObeysNotFoundRule snapshot := by
  intro top member
  cases focus with
  | symbol symbol =>
      rcases symbolRows_eq_ok_iff.mp shown with ⟨properties, known, _, listed, rfl⟩
      rcases List.mem_append.mp member with first | second
      · rcases List.mem_map.mp first with ⟨property, _, rfl⟩
        exact (IsNotFound.ok_iff []).mp
      · rcases List.mem_map.mp second with ⟨entry, belongs, rfl⟩
        exact symbolCategoryRow_obeysNotFoundRule listed belongs
  | file file =>
      rcases fileRows_eq_ok_iff.mp shown with ⟨known, listed, rfl⟩
      rcases List.mem_map.mp member with ⟨entry, belongs, rfl⟩
      exact fileCategoryRow_obeysNotFoundRule listed belongs
  | other value => cases shown

theorem IsBuilt.obeysNotFoundRule_of_child {parent : Row} (built : parent.IsBuilt)
    {snapshot : Snapshot} {rows : List Row} (opened : parent.children snapshot = .ok rows) :
    ∀ child ∈ rows, child.ObeysNotFoundRule snapshot := by
  intro child member
  rcases built.cases_of_child opened member with
    leaf | ⟨entry, _, group | caller | ⟨symbol, caller, named, made, rfl⟩⟩
  · exact leaf.obeysNotFoundRule snapshot
  · exact group.obeysNotFoundRule snapshot
  · exact caller.obeysNotFoundRule snapshot
  · rw [callerRow_children made] at opened
    rcases exists_categories_of_callChainRows opened with ⟨known, listed⟩
    exact recursiveRow_obeysNotFoundRule named listed

end Row

/-- As long as the snapshot does not change, every row below a focus that can be shown obeys the
rule for what it does not find, and every category that a table lists is accepted by the query for
its references. -/
theorem not_found_only_where_missing (snapshot : Snapshot) :
    (∀ focus tops, focusRows snapshot focus = .ok tops -> ∀ top ∈ tops, ∀ row,
      Row.IsBelow snapshot top row -> row.ObeysNotFoundRule snapshot) ∧
    (∀ symbol known, snapshot.categories symbol = .ok known -> ∀ entry ∈ known,
      ¬IsNotFound (snapshot.references symbol (.int entry.2))) ∧
    ∀ file known, snapshot.fileCategories file = .ok known -> ∀ entry ∈ known,
      ¬IsNotFound (snapshot.fileReferences file (.int entry.2)) := by
  refine ⟨?_, ?_, ?_⟩
  · intro focus tops shown top member row below
    cases below with
    | self => exact Row.obeysNotFoundRule_of_focusRows shown top member
    | child above opened belongs =>
        have built := (above.follows (isBuilt_of_focusRows shown top member)).1
        exact built.obeysNotFoundRule_of_child opened row belongs
  · intro symbol known listed entry member
    exact Snapshot.not_isNotFound_references listed member
  · intro file known listed entry member
    exact Snapshot.not_isNotFound_fileReferences listed member

namespace MissingParts

def payload (id file : String) : Value :=
  .object [("id", .text id), ("range", .object [("file", .text file)])]

/-- The file `g` has no record, nor has the symbol `d`.  The symbol `s` is called by `c` and by `d`
and used in the file `g`, where it is also overridden.  The symbol `c` numbers its callers in
another way than `s`. -/
def snapshot : Snapshot where
  members := [
    ("files", .object [("f", .object [])]),
    ("symbols", .object [
      ("s", .object [
        ("reference_types", .object [(callerName, .int 0), (usageName, .int 1),
          ("Overridden by", .int 2)]),
        ("references", .object [("0", .list [payload "c" "f", payload "d" "f"]),
          ("1", .list [payload "u" "g"]), ("2", .list [payload "v" "g"])])]),
      ("c", .object [("reference_types", .object [(callerName, .int 5)])])])]

def symbol : Symbol where
  id := "s"
  range := none
  displayValue := "s"
  tags := []
  nameHash := 0

/-- The uses of `s` are not found, since the file is missing; its overriding symbol in the same file
is found.  Below the callers of `s`, the callers of `d` are not found, and the repeated category is
not found for `c`. -/
theorem not_found_only_for_missing_parts :
    ∃ callers uses overrides lost again : Row,
      focusRows snapshot (.symbol symbol) = .ok [callers, uses, overrides] ∧
      IsNotFound (uses.children snapshot) ∧ uses.ObeysNotFoundRule snapshot ∧
      ¬IsNotFound (overrides.children snapshot) ∧ overrides.ObeysNotFoundRule snapshot ∧
      Row.IsBelow snapshot callers lost ∧ lost.kind = .caller ∧
      IsNotFound (lost.children snapshot) ∧ lost.ObeysNotFoundRule snapshot ∧
      Row.IsBelow snapshot callers again ∧ again.kind = .recursive ∧
      IsNotFound (again.children snapshot) ∧ again.ObeysNotFoundRule snapshot := by
  have browsed : ∃ callers uses overrides group found lost again,
      focusRows snapshot (.symbol symbol) = .ok [callers, uses, overrides] ∧
      (∃ row, overrides.children snapshot = .ok [row]) ∧
      uses.children snapshot = .error (.unknownFile "g") ∧
      callers.children snapshot = .ok [group] ∧ group.children snapshot = .ok [found, lost] ∧
      lost.kind = .caller ∧ lost.children snapshot = .error (.unknownSymbol "d") ∧
      found.children snapshot = .ok [again] ∧ again.kind = .recursive ∧
      again.children snapshot = .error (.unknownCategory "0" "symbol c") :=
    ⟨_, _, _, _, _, _, _, rfl, ⟨_, rfl⟩, rfl, rfl, rfl, rfl, rfl, rfl, rfl, rfl⟩
  rcases browsed with ⟨callers, uses, overrides, group, found, lost, again, shown,
    ⟨row, overridden⟩, unused, grouped, opened, lostKind, lostFault, repeated, againKind,
    againFault⟩
  have inGroup : ∀ row ∈ [found, lost], Row.IsBelow snapshot callers row := fun _ member =>
    .child (.child .self grouped List.mem_cons_self) opened member
  have lostBelow := inGroup lost (by simp)
  have againBelow := (inGroup found (by simp)).child repeated List.mem_cons_self
  have obeys := (not_found_only_where_missing snapshot).1 _ _ shown
  refine ⟨callers, uses, overrides, lost, again, shown, ⟨_, unused, rfl⟩,
    obeys uses (by simp) uses .self, ?_, obeys overrides (by simp) overrides .self,
    lostBelow, lostKind, ⟨_, lostFault, rfl⟩, obeys callers (by simp) lost lostBelow,
    againBelow, againKind, ⟨_, againFault, rfl⟩, obeys callers (by simp) again againBelow⟩
  rw [overridden]
  simp

end MissingParts

end RefTree
