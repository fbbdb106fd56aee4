import Mathlib.Data.List.Nodup
import RefTree.Proofs.Row.Partition

namespace RefTree

open Document

/-!
# When two usages share an id

The id of a usage joins the id of its group, which ends with the id of a file, and its own id.
Nothing in the result tells where the file ends.  A hyphen in the id of a usage can be taken for the
one that ends the file, and then the id reads like that of a usage in another file with a longer
name.

So different ids of usages are not enough.  The usages of one file are always told apart, and the
usages of different files exactly if the longer name of a file is not the shorter one continued by
what begins the id of a usage.
-/

/-! ## Two readings of one join -/

/-- If one of two equal joins breaks later than the other, the text between the two breaks belongs
to the front of the one and to the back of the other. -/
theorem between_of_joined_eq {front back rest otherBack : List Char}
    (equal : front ++ '-' :: back = (front ++ rest) ++ '-' :: otherBack) :
    (rest = [] ∧ back = otherBack) ∨
      ∃ between, rest = '-' :: between ∧ back = between ++ '-' :: otherBack := by
  rw [List.append_assoc] at equal
  have tails := List.append_cancel_left equal
  cases rest with
  | nil => exact Or.inl ⟨rfl, (List.cons.inj tails).2⟩
  | cons mark between =>
      rw [List.cons_append] at tails
      rcases List.cons.inj tails with ⟨rfl, read⟩
      exact Or.inr ⟨between, rfl, read⟩

/-- The usage would have the same id as another one in a file with a longer name: the longer name is
the file of the usage, a hyphen and some text, and the id of the usage is that text, a hyphen and
the id of the other. -/
def Reference.ReadsLike (usage other : Reference) : Prop :=
  ∃ between, other.file = usage.file ++ "-" ++ between ∧
    usage.id = between ++ "-" ++ other.id

namespace Reference.ReadsLike

/-- A usage reads like another one only if there is a hyphen in its id and in the file of the
other. -/
theorem hyphens {usage other : Reference} (reads : usage.ReadsLike other) :
    '-' ∈ usage.id.toList ∧ '-' ∈ other.file.toList := by
  rcases reads with ⟨between, longer, read⟩
  rw [longer, read]
  simp

/-- No file name continues itself, so usages that read alike lie in different files. -/
theorem file_ne {usage other : Reference} (reads : usage.ReadsLike other) :
    usage.file ≠ other.file := by
  intro same
  rcases reads with ⟨between, longer, _⟩
  have sizes := congrArg String.length longer
  rw [same, String.length_append, String.length_append] at sizes
  have hyphen : "-".length = 1 := rfl
  omega

end Reference.ReadsLike

/-- The id that a usage has below the row of its group. -/
def usageId (symbol : Symbol) (category : Category) (usage : Reference) : String :=
  symbol.id ++ "-" ++ category.id.plain ++ "-" ++ usage.file ++ "-" ++ usage.id

theorem readsLike_of_longer {usage other : Reference} {rest : List Char}
    (longer : other.file.toList = usage.file.toList ++ rest)
    (equal : usage.file.toList ++ '-' :: usage.id.toList =
      other.file.toList ++ '-' :: other.id.toList) :
    (usage.file = other.file ∧ usage.id = other.id) ∨ usage.ReadsLike other := by
  rw [longer] at equal
  rcases between_of_joined_eq equal with ⟨rfl, sameId⟩ | ⟨between, rfl, read⟩
  · rw [List.append_nil] at longer
    exact Or.inl ⟨String.toList_inj.mp longer.symm, String.toList_inj.mp sameId⟩
  · refine Or.inr ⟨String.ofList between, ?_, ?_⟩
    · apply String.toList_inj.mp
      simp [longer]
    · apply String.toList_inj.mp
      simp [read]

/-- Two usages have the same id exactly if file and id are the same, or one reads like the other. -/
theorem usageId_eq_iff {symbol : Symbol} {category : Category} {usage other : Reference} :
    usageId symbol category usage = usageId symbol category other ↔
      (usage.file = other.file ∧ usage.id = other.id) ∨ usage.ReadsLike other ∨
        other.ReadsLike usage := by
  have joined : usageId symbol category usage = usageId symbol category other ↔
      usage.file.toList ++ '-' :: usage.id.toList =
        other.file.toList ++ '-' :: other.id.toList := by
    rw [← String.toList_inj]
    simp [usageId]
  rw [joined]
  constructor
  · intro equal
    rcases List.append_eq_append_iff.mp equal with ⟨rest, longer, _⟩ | ⟨rest, longer, _⟩
    · rcases readsLike_of_longer longer equal with same | reads
      · exact Or.inl same
      · exact Or.inr (Or.inl reads)
    · rcases readsLike_of_longer longer equal.symm with ⟨sameFile, sameId⟩ | reads
      · exact Or.inl ⟨sameFile.symm, sameId.symm⟩
      · exact Or.inr (Or.inr reads)
  · rintro (⟨sameFile, sameId⟩ | ⟨between, longer, read⟩ | ⟨between, longer, read⟩)
    · rw [sameFile, sameId]
    · simp [longer, read]
    · simp [longer, read]

/-! ## The rows of usages -/

theorem map_id_of_leaves {references : List Reference} {id : Reference -> Option String}
    {rows : List Row}
    (made : List.Forall₂ (fun reference row => Row.leaf reference (id reference) = .ok row)
      references rows) : rows.map Row.id = references.map id := by
  induction made with
  | nil => rfl
  | cons madeFrom _ inductionHypothesis =>
      rcases Row.leaf_eq_ok_iff.mp madeFrom with ⟨_, _, rfl⟩
      rw [List.map_cons, List.map_cons, inductionHypothesis]

/-- Below the row of a group that holds no callers, each member has the id of a usage. -/
theorem map_id_of_fileGroupRow {snapshot now : Snapshot} {symbol : Symbol} {category : Category}
    (named : category.name ≠ callerName) {group : FileGroup} (filled : group.IsFilled) {row : Row}
    (made : fileGroupRow snapshot (.symbol symbol) category group = .ok row) {leaves : List Row}
    (opened : row.children now = .ok leaves) :
    leaves.map Row.id = group.members.map fun usage => some (usageId symbol category usage) := by
  rw [fileGroupRow_children made, fileGroupRows_leaf _ _ _ _ named] at opened
  rw [map_id_of_leaves (Outcome.mapM_eq_ok_iff.mp opened)]
  apply List.map_congr_left
  intro usage belongs
  rcases filled.2 usage belongs with ⟨range, found, inFile⟩
  rw [usageId, Reference.file_of_located found, inFile]

theorem map_id_of_fileGroups {snapshot now : Snapshot} {symbol : Symbol} {category : Category}
    (named : category.name ≠ callerName) {groups : List FileGroup}
    (filled : ∀ group ∈ groups, group.IsFilled) {rows : List Row}
    (made : List.Forall₂
      (fun group row => fileGroupRow snapshot (.symbol symbol) category group = .ok row)
      groups rows)
    {below : List (List Row)}
    (opened : List.Forall₂ (fun row children => row.children now = .ok children) rows below) :
    below.flatten.map Row.id =
      (groups.flatMap FileGroup.members).map fun usage => some (usageId symbol category usage) := by
  induction made generalizing below with
  | nil =>
      cases opened
      rfl
  | cons madeFrom _ inductionHypothesis =>
      rcases List.forall_mem_cons.mp filled with ⟨first, later⟩
      cases opened with
      | cons openedFirst openedLater =>
          rw [List.flatten_cons, List.flatMap_cons, List.map_append, List.map_append,
            map_id_of_fileGroupRow named first madeFrom openedFirst,
            inductionHypothesis later openedLater]

/-! ## All usages of a symbol -/

/-- Usages with different ids have different ids of rows exactly if none of them reads like another
one. -/
theorem nodup_usageIds_iff {symbol : Symbol} {category : Category} {usages : List Reference}
    (distinct : (usages.map Reference.id).Nodup) :
    (usages.map fun usage => some (usageId symbol category usage)).Nodup ↔
      ∀ usage ∈ usages, ∀ other ∈ usages, ¬usage.ReadsLike other := by
  rw [List.nodup_map_iff_inj_on distinct.of_map]
  simp only [Option.some.injEq]
  constructor
  · intro injective usage member other otherMember reads
    have same : usage = other :=
      injective usage member other otherMember (usageId_eq_iff.mpr (Or.inr (Or.inl reads)))
    exact reads.file_ne (congrArg Reference.file same)
  · intro apart usage member other otherMember sameId
    rcases usageId_eq_iff.mp sameId with ⟨_, same⟩ | reads | reads
    · exact List.inj_on_of_nodup_map distinct member otherMember same
    · exact absurd reads (apart usage member other otherMember)
    · exact absurd reads (apart other otherMember usage member)

/-- The usages in one file are told apart by their own ids. -/
theorem nodup_usageIds_of_file {symbol : Symbol} {category : Category} {usages : List Reference}
    (distinct : (usages.map Reference.id).Nodup) {file : String}
    (inFile : ∀ usage ∈ usages, usage.file = file) :
    (usages.map fun usage => some (usageId symbol category usage)).Nodup := by
  apply (nodup_usageIds_iff distinct).mpr
  intro usage member other otherMember reads
  exact reads.file_ne ((inFile usage member).trans (inFile other otherMember).symm)

/-- If the usages of a symbol have different ids and can be opened, then their rows below one group
have different ids.  The rows below all groups together have different ids exactly if no usage reads
like another one, and so in any case if there is no hyphen in the files or none in the usages. -/
theorem usage_rows_share_no_id_iff {snapshot now : Snapshot} {symbol : Symbol}
    {category : Category} (named : category.name = usageName) {usages : List Reference}
    (answered : snapshot.references symbol.id category.id = .ok usages)
    (distinct : (usages.map Reference.id).Nodup) {rows : List Row}
    (opened : categoryRows snapshot (.symbol symbol) category = .ok rows) :
    ∃ below, List.Forall₂ (fun row leaves => row.children now = .ok leaves) rows below ∧
      (∀ leaves ∈ below, (leaves.map Row.id).Nodup) ∧
      ((below.flatten.map Row.id).Nodup ↔
        ∀ usage ∈ usages, ∀ other ∈ usages, ¬usage.ReadsLike other) ∧
      ((∀ usage ∈ usages, '-' ∉ usage.file.toList) ∨ (∀ usage ∈ usages, '-' ∉ usage.id.toList) ->
        (below.flatten.map Row.id).Nodup) := by
  have noCaller : category.name ≠ callerName := by
    rw [named]
    decide
  rcases (categoryRows_grouped_eq_ok_iff (category.isGrouped_iff.mpr (Or.inr named))).mp opened with
    ⟨found, groups, again, run, made⟩
  rcases Except.ok.inj (again.symm.trans answered) with rfl
  have filled := groupByFile_isFilled run
  have partition := groupByFile_isPartition run
  obtain ⟨below, children, _⟩ := @exists_rows_of_fileGroups _ now _ _ _ _ made filled
  have apart_iff : (below.flatten.map Row.id).Nodup ↔
      ∀ usage ∈ found, ∀ other ∈ found, ¬usage.ReadsLike other := by
    rw [map_id_of_fileGroups noCaller filled made children, ← nodup_usageIds_iff distinct]
    exact ((groupByFile_members_perm run).map _).nodup_iff
  refine ⟨below, children, ?_, apart_iff, ?_⟩
  · intro leaves member
    rcases Outcome.exists_of_mem_right children member with ⟨row, rowMember, rowOpened⟩
    rcases Outcome.exists_of_mem_right made rowMember with ⟨group, belongs, madeFrom⟩
    rw [map_id_of_fileGroupRow noCaller (filled group belongs) madeFrom rowOpened,
      partition.members group belongs]
    have keptDistinct := distinct.sublist
      ((List.filter_sublist (p := fun usage => usage.file = group.file)).map Reference.id)
    apply nodup_usageIds_of_file keptDistinct
    intro usage kept
    exact of_decide_eq_true (List.mem_filter.mp kept).2
  · rintro (noneInFiles | noneInIds)
    · exact apart_iff.mpr fun _ _ other member reads => noneInFiles other member reads.hyphens.2
    · exact apart_iff.mpr fun usage member _ _ reads => noneInIds usage member reads.hyphens.1

namespace LongerFile

def use (id file : String) : Value :=
  .object [("id", .text id), ("range", .object [("file", .text file)])]

/-- The symbol `s` has two usages, one in the file `f` and one in the file `f-a`. -/
def snapshot (first second : String) : Snapshot where
  members := [
    ("files", .object [("f", .object []), ("f-a", .object [])]),
    ("symbols", .object [("s", .object [
      ("reference_types", .object [(usageName, .int 0)]),
      ("references", .object [("0", .list [use first "f", use second "f-a"])])])])]

def symbol : Symbol where
  id := "s"
  range := none
  displayValue := ""
  tags := []
  nameHash := 0

def usages : Category where
  name := usageName
  id := .int 0

/-- With hyphens in the ids and in the file, the usages `a-b` and `c` are still told apart. -/
theorem usage_rows_with_hyphens :
    ∃ found rows below,
      (snapshot "a-b" "c").references "s" (.int 0) = .ok found ∧
      found.map Reference.id = ["a-b", "c"] ∧ (found.map Reference.id).Nodup ∧
      categoryRows (snapshot "a-b" "c") (.symbol symbol) usages = .ok rows ∧
      List.Forall₂ (fun row leaves => row.children (snapshot "a-b" "c") = .ok leaves) rows below ∧
      below.flatten.map Row.id = [some "s-0-f-a-b", some "s-0-f-a-c"] ∧
      ∀ usage ∈ found, ∀ other ∈ found, ¬usage.ReadsLike other := by
  obtain ⟨found, rows, answered, ids, opened⟩ :
      ∃ found rows, (snapshot "a-b" "c").references "s" (.int 0) = .ok found ∧
        found.map Reference.id = ["a-b", "c"] ∧
        categoryRows (snapshot "a-b" "c") (.symbol symbol) usages = .ok rows :=
    ⟨_, _, rfl, rfl, rfl⟩
  have distinct : (found.map Reference.id).Nodup := by
    rw [ids]
    decide
  obtain ⟨below, children, _, apart_iff, _⟩ :=
    @usage_rows_share_no_id_iff _ (snapshot "a-b" "c") symbol usages rfl found answered distinct
      rows opened
  have leafIds : below.flatten.map Row.id = [some "s-0-f-a-b", some "s-0-f-a-c"] := by
    cases opened
    rcases children with _ | ⟨first, _ | ⟨second, _ | _⟩⟩
    cases first
    cases second
    rfl
  refine ⟨found, rows, below, answered, ids, distinct, opened, children, leafIds, ?_⟩
  apply apart_iff.mp
  rw [leafIds]
  decide

/-- The usages `a-b` and `b` have different ids, and their rows have the same. -/
theorem usage_rows_share_an_id :
    ∃ found first second leaf other,
      (snapshot "a-b" "b").references "s" (.int 0) = .ok found ∧
      (found.map Reference.id).Nodup ∧
      categoryRows (snapshot "a-b" "b") (.symbol symbol) usages = .ok [first, second] ∧
      first.children (snapshot "a-b" "b") = .ok [leaf] ∧
      second.children (snapshot "a-b" "b") = .ok [other] ∧
      leaf.id = some "s-0-f-a-b" ∧ other.id = some "s-0-f-a-b" ∧
      ¬(([leaf] ++ [other]).map Row.id).Nodup :=
  ⟨_, _, _, _, _, rfl, by decide, rfl, rfl, rfl, rfl, rfl, by decide⟩

end LongerFile

end RefTree
