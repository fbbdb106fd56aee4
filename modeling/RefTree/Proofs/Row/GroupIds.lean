import RefTree.Proofs.Row.Identity
import RefTree.Proofs.Row.Partition

namespace RefTree

open Document

/-!
# Groups are told apart by category and file

A symbol may have more than one grouped category, and the same file may have a group in each of
them.  The id of a group names the category by its integer and the file by its id.  So the groups of
one symbol share an id exactly if they share both, even if the snapshot has changed between the two
openings.  The name of the category is no part of the id.

Within one opening no file has two groups, and so no two rows have the same id.
-/

/-- The file of a group row, which is the one that its members lie in. -/
def Row.file? (row : Row) : Option String :=
  match row.source with
  | .fileGroup _ _ _ members => members.head?.map Reference.file
  | _ => none

theorem fileGroupRow_file? {snapshot : Snapshot} {symbol : Symbol} {category : Category}
    {group : FileGroup} (filled : group.IsFilled) {row : Row}
    (made : fileGroupRow snapshot (.symbol symbol) category group = .ok row) :
    row.file? = some group.file := by
  rcases fileGroupRow_eq_ok_iff.mp made with ⟨_, _, rfl⟩
  change group.members.head?.map Reference.file = some group.file
  cases listed : group.members with
  | nil => exact absurd listed filled.1
  | cons member rest =>
      have belongs : member ∈ group.members := listed ▸ List.mem_cons_self
      rcases filled.2 member belongs with ⟨range, found, inFile⟩
      rw [List.head?_cons, Option.map_some, Reference.file_of_located found, inFile]

/-- Groups of one symbol have the same id exactly if category and file are the same. -/
theorem fileGroupRow_id_eq_iff {before after : Snapshot} {symbol : Symbol}
    {first second : String × Int} {left right : FileGroup} {leftRow rightRow : Row}
    (leftMade : fileGroupRow before (.symbol symbol) (.ofEntry first) left = .ok leftRow)
    (rightMade : fileGroupRow after (.symbol symbol) (.ofEntry second) right = .ok rightRow) :
    leftRow.id = rightRow.id ↔ first.2 = second.2 ∧ left.file = right.file := by
  constructor
  · exact fileGroupRow_id_inj leftMade rightMade
  · rintro ⟨sameCategory, sameFile⟩
    rcases fileGroupRow_eq_ok_iff.mp leftMade with ⟨_, _, rfl⟩
    rcases fileGroupRow_eq_ok_iff.mp rightMade with ⟨_, _, rfl⟩
    simp only [Category.ofEntry, sameCategory, sameFile]

/-! ## The rows of one opening -/

/-- A group row in an opened category was made from a group that is filled. -/
theorem exists_group_of_categoryRows {snapshot : Snapshot} {symbol : Symbol}
    {entry : String × Int} {rows : List Row}
    (opened : categoryRows snapshot (.symbol symbol) (.ofEntry entry) = .ok rows) {row : Row}
    (member : row ∈ rows) (isGroup : row.kind = .fileGroup) :
    ∃ group : FileGroup, group.IsFilled ∧
      fileGroupRow snapshot (.symbol symbol) (.ofEntry entry) group = .ok row := by
  cases grouped : (Category.ofEntry entry).isGrouped with
  | false =>
      have leaf := isLeaf_of_categoryRows grouped opened row member
      rw [leaf.shape.1] at isGroup
      cases isGroup
  | true =>
      rcases (categoryRows_grouped_eq_ok_iff grouped).mp opened with ⟨_, groups, _, run, made⟩
      rcases Outcome.exists_of_mem_right made member with ⟨group, belongs, madeFrom⟩
      exact ⟨group, groupByFile_isFilled run group belongs, madeFrom⟩

/-- Rows that are made from groups of different files have different ids. -/
theorem nodup_ids_of_fileGroupRows {snapshot : Snapshot} {symbol : Symbol}
    {entry : String × Int} {groups : List FileGroup} {rows : List Row}
    (made : List.Forall₂
      (fun group row => fileGroupRow snapshot (.symbol symbol) (.ofEntry entry) group = .ok row)
      groups rows)
    (distinct : (groups.map FileGroup.file).Nodup) : (rows.map Row.id).Nodup := by
  induction made with
  | nil => exact List.nodup_nil
  | @cons group row _ others madeFrom later inductionHypothesis =>
      rcases List.nodup_cons.mp distinct with ⟨new, restDistinct⟩
      refine List.nodup_cons.mpr ⟨?_, inductionHypothesis restDistinct⟩
      intro listed
      rcases List.mem_map.mp listed with ⟨other, behind, sameId⟩
      rcases Outcome.exists_of_mem_right later behind with ⟨otherGroup, belongs, otherMade⟩
      have sameFile := ((fileGroupRow_id_eq_iff otherMade madeFrom).mp sameId).2
      exact new (sameFile ▸ List.mem_map_of_mem belongs)

theorem nodup_ids_of_categoryRows {snapshot : Snapshot} {symbol : Symbol}
    {entry : String × Int} {rows : List Row}
    (opened : categoryRows snapshot (.symbol symbol) (.ofEntry entry) = .ok rows) :
    ((rows.filter fun row => row.kind = .fileGroup).map Row.id).Nodup := by
  cases grouped : (Category.ofEntry entry).isGrouped with
  | false =>
      have noGroups : (rows.filter fun row => row.kind = .fileGroup) = [] := by
        apply List.filter_eq_nil_iff.mpr
        intro row member
        simp [(isLeaf_of_categoryRows grouped opened row member).shape.1]
      rw [noGroups]
      exact List.nodup_nil
  | true =>
      rcases (categoryRows_grouped_eq_ok_iff grouped).mp opened with ⟨_, groups, _, run, made⟩
      have distinct := nodup_ids_of_fileGroupRows made (groupByFile_isPartition run).distinct
      exact distinct.sublist (List.filter_sublist.map _)

/-- If two categories of a symbol are opened, a group row of the one and a group row of the other
have the same id exactly if the categories have the same integer and the groups the same file.  The
group rows of one opening have different ids. -/
theorem group_ids_name_category_and_file {before after : Snapshot} {symbol : Symbol}
    {first second : String × Int} {rows others : List Row}
    (opened : categoryRows before (.symbol symbol) (.ofEntry first) = .ok rows)
    (openedOther : categoryRows after (.symbol symbol) (.ofEntry second) = .ok others) :
    (∀ row ∈ rows, row.kind = .fileGroup -> ∀ other ∈ others, other.kind = .fileGroup ->
      ∃ file otherFile, row.file? = some file ∧ other.file? = some otherFile ∧
        (row.id = other.id ↔ first.2 = second.2 ∧ file = otherFile)) ∧
    ((rows.filter fun row => row.kind = .fileGroup).map Row.id).Nodup := by
  refine ⟨?_, nodup_ids_of_categoryRows opened⟩
  intro row member isGroup other otherMember otherIsGroup
  rcases exists_group_of_categoryRows opened member isGroup with ⟨group, filled, made⟩
  rcases exists_group_of_categoryRows openedOther otherMember otherIsGroup with
    ⟨otherGroup, otherFilled, otherMade⟩
  exact ⟨group.file, otherGroup.file, fileGroupRow_file? filled made,
    fileGroupRow_file? otherFilled otherMade, fileGroupRow_id_eq_iff made otherMade⟩

namespace HyphenatedIds

def use (id file : String) : Value :=
  .object [("id", .text id), ("range", .object [("file", .text file)])]

/-- The symbol `s-1` has hyphens in its own id, in the ids of the files that it is used in, and in
the integer of a category. -/
def snapshot : Snapshot where
  members := [
    ("files", .object [("f", .object []), ("1-f", .object []), ("-1-f", .object [])]),
    ("symbols", .object [("s-1", .object [
      ("reference_types", .object [(callerName, .int (-1)), (usageName, .int 1)]),
      ("references", .object [("-1", .list [use "a" "1-f", use "b" "f"]),
        ("1", .list [use "c" "1-f", use "d" "-1-f", use "e" "f", use "g" "1-f"])])])])]

def symbol : Symbol where
  id := "s-1"
  range := none
  displayValue := ""
  tags := []
  nameHash := 0

/-- The second group of callers and the third group of uses are of the same file and still have
different ids, since their categories have different integers. -/
theorem group_ids_with_hyphens :
    ∃ callers uses,
      categoryRows snapshot (.symbol symbol) (.ofEntry (callerName, -1)) = .ok callers ∧
      categoryRows snapshot (.symbol symbol) (.ofEntry (usageName, 1)) = .ok uses ∧
      callers.map Row.id = [some "s-1--1-1-f", some "s-1--1-f"] ∧
      uses.map Row.id = [some "s-1-1-1-f", some "s-1-1--1-f", some "s-1-1-f"] ∧
      (∀ row ∈ callers, row.kind = .fileGroup -> ∀ other ∈ uses, other.kind = .fileGroup ->
        ∃ file otherFile, row.file? = some file ∧ other.file? = some otherFile ∧
          (row.id = other.id ↔ (-1 : Int) = 1 ∧ file = otherFile)) ∧
      ((uses.filter fun row => row.kind = .fileGroup).map Row.id).Nodup := by
  obtain ⟨callers, uses, callersOpened, usesOpened, callerIds, useIds⟩ :
      ∃ callers uses,
        categoryRows snapshot (.symbol symbol) (.ofEntry (callerName, -1)) = .ok callers ∧
        categoryRows snapshot (.symbol symbol) (.ofEntry (usageName, 1)) = .ok uses ∧
        callers.map Row.id = [some "s-1--1-1-f", some "s-1--1-f"] ∧
        uses.map Row.id = [some "s-1-1-1-f", some "s-1-1--1-f", some "s-1-1-f"] :=
    ⟨_, _, rfl, rfl, rfl, rfl⟩
  exact ⟨callers, uses, callersOpened, usesOpened, callerIds, useIds,
    (group_ids_name_category_and_file callersOpened usesOpened).1,
    (group_ids_name_category_and_file usesOpened usesOpened).2⟩

end HyphenatedIds

end RefTree
