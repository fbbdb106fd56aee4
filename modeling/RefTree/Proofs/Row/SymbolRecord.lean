import RefTree.Proofs.Row.NotFound

namespace RefTree

open Document

/-!
# The rows of a symbol show its record

A symbol has a record, and its rows are made from what the record stores: first its properties, then
its table of categories, and below a category the references that are stored under the id of the
category.  Which record that is depends on nothing but the id of the symbol.

So a symbol that was found under an id shows the record with this id as long as it has the id.  It
does, with one exception: a record with a range may hold an id of its own, and that one is taken.
-/

namespace Snapshot

/-! ## The id of a symbol -/

/-- A record has a range and another id of its own than the one it is stored under. -/
def HasOtherId (id : Value) (record : Members) : Prop :=
  (∃ range, Members.find? "range" record = some range) ∧
    ∃ own, Members.find? "id" record = some own ∧ own.plain ≠ id.plain

/-- A symbol that is found under an id has that id, unless its record has another one. -/
theorem symbol_id_eq_iff {snapshot : Snapshot} {id : Value} {symbol : Symbol}
    (found : snapshot.symbol id = .ok symbol) :
    ∃ record, snapshot.symbolRecord id.plain = .ok record ∧
      (symbol.id = id.plain ↔ ¬HasOtherId id record) := by
  unfold Snapshot.symbol at found
  rcases Outcome.bind_eq_ok_iff.mp found with ⟨record, recorded, read⟩
  refine ⟨record, recorded, ?_⟩
  unfold HasOtherId
  split at read
  · rename_i range ranged
    rcases Outcome.bind_pure_eq_ok_iff.mp read with ⟨reference, decoded, rfl⟩
    rcases Reference.ofMembers_eq_ok_iff.mp decoded with
      ⟨chosen, _, _, _, _, _, _, named, _, _, _, _, _, _, rfl⟩
    have merged : (Members.find? "id" record).getD id = chosen := by
      simpa [symbolPayload, Members.find?] using named
    simp only [Symbol.ofReference, ranged, Option.some.injEq, exists_eq', true_and]
    rw [← merged]
    cases Members.find? "id" record with
    | none => simp
    | some own => simp
  · rename_i unranged
    simp only [Outcome.bind_eq_ok_iff, Outcome.pure_eq_ok, Except.ok.injEq] at read
    rcases read with ⟨_, _, _, _, rfl⟩
    simp [unranged]

end Snapshot

/-! ## Rows of a category -/

namespace Row

/-- What a category row opens to, given what is stored under the category.  The rows stand for the
stored references, or they are groups whose rows together do. -/
def ShowsStored (snapshot : Snapshot) (row : Row) (grouped : Bool) :
    Except Fault (List Reference) -> Prop
  | .error fault => row.children snapshot = .error fault
  | .ok found =>
      match grouped with
      | false => ∃ rows, row.children snapshot = .ok rows ∧
          rows.map Row.reference = found.map some
      | true =>
          (IsNotFound (row.children snapshot) ∧
            ∃ reference ∈ found, reference.IsAstray snapshot) ∨
          ∃ groups members, row.children snapshot = .ok groups ∧
            List.Forall₂ (fun group rows => group.children snapshot = .ok rows) groups members ∧
            (members.flatten.map Row.reference).Perm (found.map some)

end Row

/-- The rows of groups stand for the members of the groups. -/
theorem exists_rows_of_fileGroups {snapshot now : Snapshot} {symbol : Symbol} {category : Category}
    {groups : List FileGroup} {rows : List Row}
    (made : List.Forall₂
      (fun group row => fileGroupRow snapshot (.symbol symbol) category group = .ok row)
      groups rows)
    (filled : ∀ group ∈ groups, group.IsFilled) :
    ∃ members, List.Forall₂ (fun row below => row.children now = .ok below) rows members ∧
      members.flatten.map Row.reference = (groups.flatMap FileGroup.members).map some := by
  induction made with
  | nil => exact ⟨[], .nil, rfl⟩
  | @cons group row _ _ madeFrom _ inductionHypothesis =>
      rcases List.forall_mem_cons.mp filled with ⟨groupFilled, restFilled⟩
      rcases inductionHypothesis restFilled with ⟨members, opened, shown⟩
      rcases exists_fileGroupRows groupFilled.isLocated (.symbol symbol) category
        (symbol.id ++ "-" ++ category.id.plain ++ "-" ++ group.file) with ⟨below, groupOpened⟩
      refine ⟨below :: members, .cons ?_ opened, ?_⟩
      · rw [fileGroupRow_children madeFrom, groupOpened]
      · rw [List.flatten_cons, List.map_append, map_reference_of_fileGroupRows groupOpened, shown,
          List.flatMap_cons, List.map_append]

/-- If the references of a grouped category are found and its rows are not, then a file is
missing. -/
theorem exists_isAstray_of_categoryRows_eq_error {snapshot : Snapshot} {symbol : Symbol}
    {category : Category} {found : List Reference} {fault : Fault}
    (grouped : category.isGrouped = true)
    (answered : snapshot.references symbol.id category.id = .ok found)
    (failed : categoryRows snapshot (.symbol symbol) category = .error fault) :
    fault.kind = .notFound ∧ ∃ reference ∈ found, reference.IsAstray snapshot := by
  have isLocated := Snapshot.isLocated_of_references answered
  rcases exists_groupByFile isLocated with ⟨groups, collected⟩
  unfold categoryRows Focus.id at failed
  rw [Outcome.ok_bind, answered, Outcome.ok_bind, if_pos grouped] at failed
  have kind : fault.kind = .notFound := by
    rw [collected, Outcome.ok_bind] at failed
    rcases Outcome.exists_of_mapM_eq_error failed with ⟨group, _, groupFailed⟩
    exact kind_of_fileGroupRow_eq_error groupFailed
  exact ⟨kind, (fileGroupRows_isNotFound_iff isLocated).mp ⟨fault, failed, kind⟩⟩

/-- A category row of a symbol shows what the query for the references of the category returns. -/
theorem symbolCategoryRow_showsStored (snapshot : Snapshot) (symbol : Symbol)
    (entry : String × Int) :
    (symbolCategoryRow symbol entry).ShowsStored snapshot (Category.ofEntry entry).isGrouped
      (snapshot.references symbol.id (.int entry.2)) := by
  cases answered : snapshot.references symbol.id (.int entry.2) with
  | error fault =>
      change (snapshot.references symbol.id (.int entry.2) >>= _) = .error fault
      rw [answered, Outcome.error_bind]
  | ok found =>
      cases grouped : (Category.ofEntry entry).isGrouped with
      | false =>
          rcases Outcome.exists_mapM_eq_ok (fun reference member => Row.exists_leaf
            (Snapshot.isLocated_of_references answered reference member) none) with ⟨rows, made⟩
          have leaves := Outcome.mapM_eq_ok_iff.mp made
          have opened := (categoryRows_flat_eq_ok_iff grouped).mpr ⟨found, answered, leaves⟩
          exact ⟨rows, opened, map_reference_of_leaves leaves⟩
      | true =>
          cases opened : categoryRows snapshot (.symbol symbol) (.ofEntry entry) with
          | error fault =>
              rcases exists_isAstray_of_categoryRows_eq_error grouped answered opened with
                ⟨kind, astray⟩
              exact Or.inl ⟨⟨fault, opened, kind⟩, astray⟩
          | ok rows =>
              rcases (categoryRows_grouped_eq_ok_iff grouped).mp opened with
                ⟨others, groups, again, run, made⟩
              have same : others = found := Except.ok.inj (again.symm.trans answered)
              rw [same] at run
              rcases exists_rows_of_fileGroups made (groupByFile_isFilled run) with
                ⟨members, below, shown⟩
              refine Or.inr ⟨rows, members, opened, below, ?_⟩
              rw [shown]
              exact (groupByFile_members_perm run).map some

/-! ## Rows of a symbol -/

/-- The rows of a symbol are those of a record: the properties and the categories that it stores, or
the fault in its table of categories; and each category row shows the references that it stores
under the category. -/
structure Symbol.ShowsRecord (snapshot : Snapshot) (symbol : Symbol) (record : Members) : Prop where
  tops : focusRows snapshot (.symbol symbol) =
    (Snapshot.recordedCategories record).map fun known =>
      (Snapshot.recordedProperties record).map (propertyRow symbol) ++
        known.map (symbolCategoryRow symbol)
  categories : ∀ known, Snapshot.recordedCategories record = .ok known -> ∀ entry ∈ known,
    (symbolCategoryRow symbol entry).ShowsStored snapshot (Category.ofEntry entry).isGrouped
      (Snapshot.recordedReferences symbol.id record entry.2)

/-- A symbol shows the record that is stored under its id. -/
theorem showsRecord_of_symbolRecord {snapshot : Snapshot} {symbol : Symbol} {record : Members}
    (recorded : snapshot.symbolRecord symbol.id = .ok record) :
    symbol.ShowsRecord snapshot record where
  tops := by
    change symbolRows snapshot symbol = _
    unfold symbolRows
    rw [Snapshot.properties_eq_recorded recorded, Outcome.ok_bind,
      Snapshot.categories_eq_recorded recorded]
    cases Snapshot.recordedCategories record with
    | error fault => rfl
    | ok known =>
        rw [Outcome.ok_bind, List.map_map]
        rfl
  categories := by
    intro known tabled entry member
    have shows := symbolCategoryRow_showsStored snapshot symbol entry
    rw [Snapshot.references_eq_recorded recorded tabled member] at shows
    exact shows

/-- A symbol that is found under an id has this id exactly if its record does not give it another
one, and then its rows show the record. -/
theorem opened_symbol_shows_its_record {snapshot : Snapshot} {id : Value} {symbol : Symbol}
    (found : snapshot.symbol id = .ok symbol) :
    ∃ record, snapshot.symbolRecord id.plain = .ok record ∧
      (symbol.id = id.plain ↔ ¬Snapshot.HasOtherId id record) ∧
      (symbol.id = id.plain -> symbol.ShowsRecord snapshot record) := by
  rcases Snapshot.symbol_id_eq_iff found with ⟨record, recorded, named⟩
  refine ⟨record, recorded, named, ?_⟩
  intro same
  rw [← same] at recorded
  exact showsRecord_of_symbolRecord recorded

namespace BorrowedId

/-- The record of `a` has a range and the id of `b`.  The record of `b` has the id of `a`, but no
range. -/
def snapshot : Snapshot where
  members := [
    ("files", .object [("f", .object [])]),
    ("symbols", .object [
      ("a", .object [("id", .text "b"), ("range", .object [("file", .text "f")]),
        ("properties", .object [("Kind", .text "class")])]),
      ("b", .object [("id", .text "a"), ("properties", .object [("Kind", .text "function")]),
        ("reference_types", .object [(usageName, .int 0)]),
        ("references", .object [("0", .list [.object [("id", .text "u"),
          ("range", .object [("file", .text "f")])]])])])])]

/-- Opening `b` shows its record. -/
theorem opened_symbol_shows_record_of_b :
    ∃ symbol record, snapshot.symbol (.text "b") = .ok symbol ∧
      snapshot.symbolRecord "b" = .ok record ∧ symbol.id = "b" ∧
      symbol.ShowsRecord snapshot record ∧
      focusRows snapshot (.symbol symbol) =
        .ok [propertyRow symbol ("Kind", "function"), symbolCategoryRow symbol (usageName, 0)] := by
  have found : ∃ symbol, snapshot.symbol (.text "b") = .ok symbol ∧ symbol.id = "b" ∧
      focusRows snapshot (.symbol symbol) =
        .ok [propertyRow symbol ("Kind", "function"), symbolCategoryRow symbol (usageName, 0)] :=
    ⟨_, rfl, rfl, rfl⟩
  rcases found with ⟨symbol, found, named, shown⟩
  rcases opened_symbol_shows_its_record found with ⟨record, recorded, _, shows⟩
  exact ⟨symbol, record, found, recorded, named, shows named, shown⟩

/-- Opening `a` gives another symbol, and shows the record of `b`. -/
theorem opened_symbol_is_another :
    ¬(∀ (snapshot : Snapshot) (id : Value) (symbol : Symbol),
        snapshot.symbol id = .ok symbol -> symbol.id = id.plain) ∧
      ∃ symbol, snapshot.symbol (.text "a") = .ok symbol ∧ symbol.id = "b" ∧
        focusRows snapshot (.symbol symbol) =
          .ok [propertyRow symbol ("Kind", "function"),
            symbolCategoryRow symbol (usageName, 0)] := by
  refine ⟨?_, _, rfl, rfl, rfl⟩
  intro always
  have named := always snapshot (.text "a") _ rfl
  exact absurd named (by decide)

end BorrowedId

end RefTree
