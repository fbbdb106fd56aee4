import Mathlib.Data.List.Perm.Basic
import RefTree.Proofs.Row.SymbolRecord

namespace RefTree

open Document

/-!
# Grouping as an ordered partition

The groups of a list of references are said apart from the loop that makes them: there is one group
for each file, in the order in which the files first occur, and it holds the references in this file
in the order in which they stand in the list.  The loop adds one reference at a time, and what it
has made so far are always the groups of what it has seen so far.

The rows of a grouped category inherit this.  Their children are computed when a row is opened, but
from members that were fixed when the row was made, so the partition is found again in what is
shown.
-/

/-- The file that a reference lies in.  Without a range this is the empty text, which names none. -/
def Reference.file (reference : Reference) : String :=
  (reference.range.map SourceRange.file).getD ""

theorem Reference.file_of_located {reference : Reference} {range : SourceRange}
    (found : reference.located = .ok range) : reference.file = range.file := by
  rw [file, (located_eq_ok_iff.mp found).1]
  rfl

/-- One group for each file in order of first occurrence, each with the references in its file. -/
structure IsPartition (references : List Reference) (groups : List FileGroup) : Prop where
  files : groups.map FileGroup.file = (references.map Reference.file).eraseDups
  distinct : (groups.map FileGroup.file).Nodup
  members : ∀ group ∈ groups,
    group.members = references.filter fun reference => reference.file = group.file

/-! ## Adding one reference -/

/-- Of a list with one more element, the distinct elements in order of first occurrence. -/
theorem eraseDups_concat (files : List String) (file : String) :
    (files ++ [file]).eraseDups =
      if file ∈ files then files.eraseDups else files.eraseDups ++ [file] := by
  rw [List.eraseDups_append]
  by_cases old : file ∈ files
  · rw [if_pos old]
    simp [List.removeAll, old]
  · rw [if_neg old]
    simp [List.removeAll, old, List.eraseDups_cons]

/-- A file that has a group keeps its place, and a new one comes last. -/
theorem files_addToGroups (file : String) (reference : Reference) (groups : List FileGroup) :
    (addToGroups file reference groups).map FileGroup.file =
      if file ∈ groups.map FileGroup.file then groups.map FileGroup.file
      else groups.map FileGroup.file ++ [file] := by
  induction groups with
  | nil => rfl
  | cons head rest inductionHypothesis =>
      by_cases same : head.file = file
      · simp [addToGroups, same]
      · rw [addToGroups, if_neg same, List.map_cons, List.map_cons, inductionHypothesis]
        by_cases later : file ∈ rest.map FileGroup.file
        · rw [if_pos later, if_pos (List.mem_cons_of_mem _ later)]
        · have new : file ∉ head.file :: rest.map FileGroup.file := by
            rw [List.mem_cons]
            rintro (first | listed)
            · exact same first.symm
            · exact later listed
          rw [if_neg later, if_neg new, List.cons_append]

/-- After a reference was added, a group is one of another file, or the group of its file with the
reference behind the earlier members, or a new group with nothing else in it. -/
theorem cases_of_mem_addToGroups {file : String} {reference : Reference}
    {groups : List FileGroup} (distinct : (groups.map FileGroup.file).Nodup) {group : FileGroup}
    (member : group ∈ addToGroups file reference groups) :
    (group ∈ groups ∧ group.file ≠ file) ∨
      (∃ old ∈ groups, old.file = file ∧ group = ⟨file, old.members ++ [reference]⟩) ∨
      (file ∉ groups.map FileGroup.file ∧ group = ⟨file, [reference]⟩) := by
  induction groups with
  | nil => exact Or.inr (Or.inr ⟨List.not_mem_nil, List.mem_singleton.mp member⟩)
  | cons head rest inductionHypothesis =>
      rcases List.nodup_cons.mp distinct with ⟨headNew, restDistinct⟩
      by_cases same : head.file = file
      · rw [addToGroups, if_pos same] at member
        rcases List.mem_cons.mp member with rfl | later
        · exact Or.inr (Or.inl ⟨head, List.mem_cons_self, same, rfl⟩)
        · -- The file of the head occurs only once, so the groups behind it are of other files.
          apply Or.inl
          refine ⟨List.mem_cons_of_mem _ later, ?_⟩
          rintro rfl
          exact headNew (same ▸ List.mem_map_of_mem later)
      · rw [addToGroups, if_neg same] at member
        rcases List.mem_cons.mp member with rfl | later
        · exact Or.inl ⟨List.mem_cons_self, same⟩
        · rcases inductionHypothesis restDistinct later with
            ⟨kept, other⟩ | ⟨old, belongs, inFile, grown⟩ | ⟨new, made⟩
          · exact Or.inl ⟨List.mem_cons_of_mem _ kept, other⟩
          · exact Or.inr (Or.inl ⟨old, List.mem_cons_of_mem _ belongs, inFile, grown⟩)
          · refine Or.inr (Or.inr ⟨?_, made⟩)
            rw [List.map_cons, List.mem_cons]
            rintro (first | listed)
            · exact same first.symm
            · exact new listed

/-- Adding a reference to the groups of some references gives the groups of one reference more. -/
theorem IsPartition.add {references : List Reference} {groups : List FileGroup}
    (partition : IsPartition references groups) (reference : Reference) :
    IsPartition (references ++ [reference])
      (addToGroups reference.file reference groups) where
  files := by
    rw [files_addToGroups, List.map_append, List.map_singleton, eraseDups_concat, partition.files]
    simp only [List.mem_eraseDups]
  distinct := by
    rw [files_addToGroups]
    split
    · exact partition.distinct
    · rename_i new
      apply List.nodup_append.mpr
      refine ⟨partition.distinct, List.pairwise_singleton _ _, ?_⟩
      rintro listed old _ last rfl
      exact new (List.mem_singleton.mp last ▸ old)
  members := by
    intro group member
    rw [List.filter_append]
    rcases cases_of_mem_addToGroups partition.distinct member with
      ⟨kept, other⟩ | ⟨old, belongs, inFile, rfl⟩ | ⟨new, rfl⟩
    · simp [partition.members group kept, Ne.symm other]
    · simp [partition.members old belongs, inFile]
    · have none : ∀ earlier ∈ references, earlier.file ≠ reference.file := by
        intro earlier listed same
        apply new
        rw [partition.files, List.mem_eraseDups]
        exact same ▸ List.mem_map_of_mem listed
      simpa using none

/-! ## Grouping a whole list -/

theorem groupInto_isPartition {earlier references : List Reference}
    {groups grouped : List FileGroup} (partition : IsPartition earlier groups)
    (run : groupInto groups references = .ok grouped) :
    IsPartition (earlier ++ references) grouped := by
  induction references generalizing earlier groups with
  | nil =>
      cases run
      rwa [List.append_nil]
  | cons reference rest inductionHypothesis =>
      rw [groupInto] at run
      split at run
      · rename_i range found
        rw [← Reference.file_of_located found] at run
        simpa using inductionHypothesis (partition.add reference) run
      · cases run

/-- The groups of a list of references partition it, in order. -/
theorem groupByFile_isPartition {references : List Reference} {groups : List FileGroup}
    (run : groupByFile references = .ok groups) : IsPartition references groups := by
  have start : IsPartition [] [] :=
    ⟨rfl, List.nodup_nil, fun _ member => absurd member List.not_mem_nil⟩
  exact groupInto_isPartition start run

theorem isLocated_of_groupByFile {references : List Reference} {groups : List FileGroup}
    (run : groupByFile references = .ok groups) :
    ∀ reference ∈ references, reference.IsLocated := by
  intro reference member
  have held := (groupByFile_members_perm run).mem_iff.mpr member
  rcases List.mem_flatMap.mp held with ⟨group, belongs, listed⟩
  exact (groupByFile_isFilled run group belongs).isLocated reference listed

/-- A list can be grouped exactly if all its references have a range that names a file. -/
theorem exists_groupByFile_iff {references : List Reference} :
    (∃ groups, groupByFile references = .ok groups) ↔
      ∀ reference ∈ references, ∃ range, reference.range = some range ∧ range.file ≠ "" := by
  simp only [← Reference.isLocated_iff]
  constructor
  · rintro ⟨groups, run⟩
    exact isLocated_of_groupByFile run
  · exact exists_groupByFile

/-! ## What is stored and what is shown -/

/-- The references that a query finds were read from the stored payloads, one from each. -/
theorem Snapshot.exists_payloads_of_references {snapshot : Snapshot} {symbol : String}
    {category : Value} {found : List Reference}
    (answered : snapshot.references symbol category = .ok found) :
    ∃ record payloads, snapshot.symbolRecord symbol = .ok record ∧
      (storedUnder? (Members.find? "references" record) category).getD (.list []) =
        .list payloads ∧
      List.Forall₂ (fun payload reference => Reference.decode payload = .ok reference)
        payloads found := by
  simp only [references, Outcome.bind_eq_ok_iff] at answered
  rcases answered with ⟨record, recorded, known, _, asked⟩
  rcases referencesOf_eq_ok_iff.mp asked with ⟨_, _, _, _, read⟩
  refine ⟨record, ?_⟩
  generalize storedUnder? (Members.find? "references" record) category = stored at read ⊢
  rw [storedReferences.eq_def] at read
  split at read
  · cases read
    exact ⟨[], recorded, rfl, .nil⟩
  · rename_i payloads
    exact ⟨payloads, recorded, rfl, Outcome.mapM_eq_ok_iff.mp read⟩
  · cases read

/-- A row that shows the references of one file: it is labelled with the name of the file and the
number of its children, and whenever it is opened it has one child for each of these references, in
their order. -/
structure Row.ShowsFile (snapshot : Snapshot) (references : List Reference) (file : String)
    (row : Row) (below : List Row) : Prop where
  kind : row.kind = .fileGroup
  label : ∃ handle, snapshot.file file = .ok handle ∧
    row.label = { text := handle.name ++ " (" ++ below.length.repr ++ ")" }
  children : ∀ now, row.children now = .ok below
  shown : below.map Row.reference =
    (references.filter fun reference => reference.file = file).map some

/-- The row of a group shows the file of the group. -/
theorem exists_showsFile_of_fileGroupRow {snapshot : Snapshot} {symbol : Symbol}
    {category : Category} {references : List Reference} {groups : List FileGroup}
    (partition : IsPartition references groups)
    (isLocated : ∀ reference ∈ references, reference.IsLocated) {group : FileGroup}
    (belongs : group ∈ groups) {row : Row}
    (made : fileGroupRow snapshot (.symbol symbol) category group = .ok row) :
    ∃ below, row.ShowsFile snapshot references group.file below := by
  have members := partition.members group belongs
  have membersLocated : ∀ member ∈ group.members, member.IsLocated := by
    intro member listed
    rw [members] at listed
    exact isLocated member (List.mem_filter.mp listed).1
  rcases exists_fileGroupRows membersLocated (.symbol symbol) category
    (symbol.id ++ "-" ++ category.id.plain ++ "-" ++ group.file) with ⟨below, opened⟩
  have shown := map_reference_of_fileGroupRows opened
  have count : below.length = group.members.length := by
    simpa using congrArg List.length shown
  rcases fileGroupRow_eq_ok_iff.mp made with ⟨handle, found, rfl⟩
  exact ⟨below, rfl, ⟨handle, found, by rw [count]⟩, fun _ => opened, members ▸ shown⟩

/-- There is one row for each file, in order of first occurrence. -/
theorem showsFiles_of_fileGroupRows {snapshot : Snapshot} {symbol : Symbol} {category : Category}
    {references : List Reference} {groups : List FileGroup} {rows : List Row}
    (run : groupByFile references = .ok groups)
    (made : List.Forall₂
      (fun group row => fileGroupRow snapshot (.symbol symbol) category group = .ok row)
      groups rows) :
    List.Forall₂ (fun file row => ∃ below, row.ShowsFile snapshot references file below)
      (references.map Reference.file).eraseDups rows := by
  have partition := groupByFile_isPartition run
  rw [← partition.files, List.forall₂_map_left_iff]
  have each := (List.forall₂_and_left groups rows).mpr ⟨fun _ belongs => belongs, made⟩
  apply each.imp
  rintro group row ⟨belongs, madeFrom⟩
  exact exists_showsFile_of_fileGroupRow partition (isLocated_of_groupByFile run) belongs madeFrom

/-! ## Grouped and flat -/

/-- The label and the style that the row of a reference has where the reference cannot be opened. -/
def Reference.HasLook (reference : Reference) (look : Label × Option String) : Prop :=
  reference.label = .ok look.1 ∧ look.2 = visibilityStyle? reference.tags

/-- What a row looks like: its label and its style. -/
def Row.look (row : Row) : Label × Option String :=
  (row.label, row.style)

theorem Reference.hasLook_rightUnique : Relator.RightUnique Reference.HasLook := by
  rintro reference first second ⟨label, style⟩ ⟨otherLabel, otherStyle⟩
  apply Prod.ext
  · exact Except.ok.inj (label.symm.trans otherLabel)
  · rw [style, otherStyle]

theorem hasLook_of_leaves {references : List Reference} {id : Reference -> Option String}
    {rows : List Row}
    (made : List.Forall₂ (fun reference row => Row.leaf reference (id reference) = .ok row)
      references rows) :
    List.Forall₂ (fun reference row => reference.HasLook row.look) references rows := by
  apply made.imp
  intro reference row madeFrom
  rcases Row.leaf_eq_ok_iff.mp madeFrom with ⟨label, found, rfl⟩
  exact ⟨found, rfl⟩

/-- Below the rows of groups that hold no callers, every member is shown as a flat row shows it. -/
theorem hasLook_of_fileGroups {snapshot now : Snapshot} {symbol : Symbol} {category : Category}
    (named : category.name ≠ callerName) {groups : List FileGroup} {rows : List Row}
    (made : List.Forall₂
      (fun group row => fileGroupRow snapshot (.symbol symbol) category group = .ok row)
      groups rows)
    {below : List (List Row)}
    (opened : List.Forall₂ (fun row children => row.children now = .ok children) rows below) :
    List.Forall₂ (fun reference row => reference.HasLook row.look)
      (groups.flatMap FileGroup.members) below.flatten := by
  induction made generalizing below with
  | nil =>
      cases opened
      exact .nil
  | cons madeFrom _ inductionHypothesis =>
      cases opened with
      | cons first rest =>
          rw [fileGroupRow_children madeFrom, fileGroupRows_leaf _ _ _ _ named,
            Outcome.mapM_eq_ok_iff] at first
          exact List.rel_append (hasLook_of_leaves first) (inductionHypothesis rest)

/-! ## The whole partition -/

/-- References can be grouped exactly if each has a range that names a file.  There is then one
group for each file in order of first occurrence, and it holds the references in this file in their
order.

When a category of callers or usages is opened, the references are those that the stored payloads
describe, one for each.  There is one row for each of their files in order of first occurrence,
which shows the name of the file, the number of its children, and as its children the references in
the file in stored order.  All children together stand for all references, each as often as it is
stored.  For usages they also look like the rows of a category that is not grouped would. -/
theorem grouping_is_an_ordered_partition :
    (∀ references : List Reference,
      ((∃ groups, groupByFile references = .ok groups) ↔
        ∀ reference ∈ references, ∃ range, reference.range = some range ∧ range.file ≠ "") ∧
      ∀ groups, groupByFile references = .ok groups ->
        groups.map FileGroup.file = (references.map Reference.file).eraseDups ∧
        ∀ group ∈ groups,
          group.members = references.filter fun reference => reference.file = group.file) ∧
    ∀ (snapshot : Snapshot) (symbol : Symbol) (category : Category) (rows : List Row),
      category.name = callerName ∨ category.name = usageName ->
      categoryRows snapshot (.symbol symbol) category = .ok rows ->
      ∃ references, snapshot.references symbol.id category.id = .ok references ∧
        (∃ record payloads, snapshot.symbolRecord symbol.id = .ok record ∧
          (Snapshot.storedUnder? (Members.find? "references" record) category.id).getD
            (.list []) = .list payloads ∧
          List.Forall₂ (fun payload reference => Reference.decode payload = .ok reference)
            payloads references) ∧
        List.Forall₂ (fun file row => ∃ below, row.ShowsFile snapshot references file below)
          (references.map Reference.file).eraseDups rows ∧
        ∃ below, List.Forall₂ (fun row children => row.children snapshot = .ok children)
            rows below ∧
          (below.flatten.map Row.reference).Perm (references.map some) ∧
          (category.name = usageName -> ∀ flat : Category, flat.id = category.id ->
            flat.isGrouped = false ->
            ∃ shown, categoryRows snapshot (.symbol symbol) flat = .ok shown ∧
              (below.flatten.map Row.look).Perm (shown.map Row.look)) := by
  refine ⟨fun references => ⟨exists_groupByFile_iff, fun groups run => ?_⟩, ?_⟩
  · have partition := groupByFile_isPartition run
    exact ⟨partition.files, partition.members⟩
  · intro snapshot symbol category rows named opened
    rcases (categoryRows_grouped_eq_ok_iff ((category.isGrouped_iff).mpr named)).mp opened with
      ⟨references, groups, answered, run, made⟩
    have collected := groupByFile_members_perm run
    obtain ⟨below, children, shown⟩ :
        ∃ below, List.Forall₂ (fun row children => row.children snapshot = .ok children)
            rows below ∧
          below.flatten.map Row.reference = (groups.flatMap FileGroup.members).map some :=
      exists_rows_of_fileGroups made (groupByFile_isFilled run)
    refine ⟨references, answered, Snapshot.exists_payloads_of_references answered,
      showsFiles_of_fileGroupRows run made, below, children, ?_, ?_⟩
    · rw [shown]
      exact collected.map some
    · intro isUsage flat sameId notGrouped
      have notCaller : category.name ≠ callerName := by
        rw [isUsage]
        decide
      rcases Outcome.exists_mapM_eq_ok (fun reference member => Row.exists_leaf
        (isLocated_of_groupByFile run reference member) none) with ⟨leaves, leavesMade⟩
      have flatMade := Outcome.mapM_eq_ok_iff.mp leavesMade
      refine ⟨leaves, (categoryRows_flat_eq_ok_iff notGrouped).mpr
        ⟨references, sameId ▸ answered, flatMade⟩, ?_⟩
      have grouped := List.forall₂_map_right_iff.mpr (hasLook_of_fileGroups notCaller made children)
      have listed := List.forall₂_map_right_iff.mpr (hasLook_of_leaves flatMade)
      exact List.rel_perm_imp Reference.hasLook_rightUnique grouped listed collected

namespace MixedUsages

def use (id file : String) (line : Int) : Value :=
  .object [("id", .text id), ("range", .object [("file", .text file),
    ("startpos", .object [("line", .int line)])])]

/-- The symbol `s` is used in two files by turns. -/
def snapshot : Snapshot where
  members := [
    ("files", .object [("f", .object [("name", .text "f.cpp")]),
      ("g", .object [("path", .text "include/g.h")])]),
    ("symbols", .object [("s", .object [
      ("reference_types", .object [(usageName, .int 7)]),
      ("references", .object [("7", .list [use "b" "g" 3, use "a" "f" 1, use "c" "g" 2])])])])]

def symbol : Symbol where
  id := "s"
  range := none
  displayValue := "s"
  tags := []
  nameHash := 0

def usages : Category where
  name := usageName
  id := .int 7

/-- The file that is met first comes first, with the two usages in it, and nothing is lost. -/
theorem mixed_usages_are_partitioned :
    ∃ rows references groups below,
      categoryRows snapshot (.symbol symbol) usages = .ok rows ∧
      snapshot.references "s" (.int 7) = .ok references ∧
      groupByFile references = .ok groups ∧
      groups.map FileGroup.file = (references.map Reference.file).eraseDups ∧
      references.map Reference.id = ["b", "a", "c"] ∧
      (rows.map fun row => row.label.text) = ["g.h (2)", "f.cpp (1)"] ∧
      List.Forall₂ (fun row children => row.children snapshot = .ok children) rows below ∧
      (below.flatten.map Row.reference).Perm (references.map some) := by
  obtain ⟨rows, opened⟩ : ∃ rows, categoryRows snapshot (.symbol symbol) usages = .ok rows :=
    ⟨_, rfl⟩
  obtain ⟨groups, run⟩ : ∃ groups, (snapshot.references "s" (.int 7) >>= groupByFile) =
      .ok groups := ⟨_, rfl⟩
  rcases grouping_is_an_ordered_partition.2 snapshot symbol usages rows (Or.inr rfl) opened with
    ⟨references, answered, _, _, below, children, collected, _⟩
  have grouped : groupByFile references = .ok groups := by
    change snapshot.references "s" (.int 7) = .ok references at answered
    rwa [answered] at run
  have files := ((grouping_is_an_ordered_partition.1 references).2 groups grouped).1
  refine ⟨rows, references, groups, below, opened, answered, grouped, files, ?_, ?_, children,
    collected⟩
  · cases answered
    rfl
  · cases opened
    rfl

end MixedUsages

end RefTree
