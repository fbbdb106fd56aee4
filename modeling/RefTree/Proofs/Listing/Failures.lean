import RefTree.Proofs.Listing.Visits
import RefTree.Proofs.Row.Infinity

namespace RefTree

/-!
# Failures in a printed tree

A row of a tree that cannot be opened does not keep the tree from being printed: the line of the row
is followed by a line for its fault, and the walk goes on with the next row.  The one thing that
stops the walk is an infinite number below a row that has to be opened.  Lines themselves never
fail, since every row that the library builds has a text.
-/

/-! ## Every built row has a text -/

/-- A reference with a label has a text, with colours and without. -/
theorem exists_referenceText {row : Row} {reference : Reference} {label : Label}
    (stands : row.reference = some reference) (labelled : reference.label = .ok label)
    (style : Option Style) : ∃ text, referenceText row style = .ok text := by
  rcases Outcome.bind_pure_eq_ok_iff.mp labelled with ⟨range, located, _⟩
  have ranged := (Reference.located_eq_ok_iff.mp located).1
  unfold referenceText
  rw [stands]
  cases style with
  | none => exact ⟨_, rfl⟩
  | some name =>
      simp only [ranged]
      exact ⟨_, rfl⟩

theorem exists_rowText_of_referenceText {row : Row} {style : Option Style} {text : String}
    (found : referenceText row style = .ok text) (theme : Theme) :
    ∃ text, rowText theme style row = .ok text := by
  unfold rowText
  split
  · exact ⟨_, rfl⟩
  · split
    · exact ⟨_, rfl⟩
    · exact ⟨_, rfl⟩
    · exact ⟨_, rfl⟩
    · rw [found]
      exact ⟨_, rfl⟩

theorem Row.IsBuilt.exists_rowText {row : Row} (built : row.IsBuilt) (theme : Theme)
    (style : Option Style) : ∃ text, rowText theme style row = .ok text := by
  cases built with
  | property symbol property => exact ⟨_, rfl⟩
  | category symbol entry => exact ⟨_, rfl⟩
  | fileCategory file entry => exact ⟨_, rfl⟩
  | fileGroup shape =>
      rcases shape with ⟨_, _, symbol, group, _, made⟩
      rcases fileGroupRow_eq_ok_iff.mp made with ⟨_, _, rfl⟩
      exact ⟨_, rfl⟩
  | caller shape =>
      rcases shape with ⟨_, symbol, caller, made⟩
      rcases callerRow_eq_ok_iff.mp made with ⟨label, labelled, rfl⟩
      rcases exists_referenceText (callerRow_reference made) labelled style with ⟨text, found⟩
      exact exists_rowText_of_referenceText found theme
  | recursive shape =>
      rcases shape with ⟨_, caller, rfl⟩
      exact ⟨_, rfl⟩
  | leaf shape =>
      rcases shape with ⟨reference, id, made⟩
      rcases leaf_eq_ok_iff.mp made with ⟨label, labelled, same⟩
      have stands : row.reference = some reference := by rw [same]
      rcases exists_referenceText stands labelled style with ⟨text, found⟩
      exact exists_rowText_of_referenceText found theme

/-! ## Where printing stops -/

/-- Nothing is printed if there is a stop among the reports. -/
theorem not_stop_of_reportLines {theme : Theme} {style : Option Style} {given : List Report}
    {lines : List String} (printed : reportLines theme style given = .ok lines) (fault : Fault) :
    .stop fault ∉ given := by
  induction given generalizing lines with
  | nil => exact List.not_mem_nil
  | cons report rest inductionHypothesis =>
      intro member
      rcases List.mem_cons.mp member with rfl | later
      · cases printed
      · cases report with
        | line line =>
            rcases Outcome.bind_eq_ok_iff.mp printed with ⟨_, _, following⟩
            rcases Outcome.bind_eq_ok_iff.mp following with ⟨_, restPrinted, _⟩
            exact inductionHypothesis restPrinted later
        | note note => exact inductionHypothesis printed later
        | stop other => cases printed

/-- Only a row that can be opened fails to open. -/
theorem Row.expandable_of_children_eq_error {row : Row} {snapshot : Snapshot} {fault : Fault}
    (failed : row.children snapshot = .error fault) : row.expandable = true := by
  by_contra shut
  rw [children_of_not_expandable (by simpa using shut)] at failed
  cases failed

/-- The reports of a visited row that cannot be opened stand together in those of the tree. -/
theorem Visited.failure_isInfix {snapshot : Snapshot} {tops : List Row} {level : Nat} {row : Row}
    (visited : Visited snapshot tops level row) {remaining : Nat} (above : level < remaining)
    {fault : Fault} (failed : row.children snapshot = .error fault) :
    .line (.row level .opened row) :: ((row.childrenNotes snapshot).map .note ++
        if fault.isTreeFault then [.note (failureNote row fault), .line (.fault level fault)]
        else [.stop fault]) <:+: reports snapshot remaining 0 tops := by
  have expandable := Row.expandable_of_children_eq_error failed
  have one : remaining - level = remaining - level - 1 + 1 := by omega
  have part := visited.reports_isInfix (by omega : level ≤ remaining)
  rw [one, reports_of_expandable expandable, failed] at part
  exact part

/-- A row of a tree has to be opened at a depth and meets an infinite number. -/
def OpensInfinity (snapshot : Snapshot) (depth : Int) (tops : List Row) : Prop :=
  ∃ (level : Nat) (row : Row), Visited snapshot tops level row ∧ level + 1 < depth ∧
    row.MeetsInfinity snapshot

section Built

variable {snapshot : Snapshot} {tops : List Row} (built : ∀ row ∈ tops, row.IsBuilt)
  (theme : Theme) (style : Option Style) (depth : Int)
include built

/-- Printing fails at a visited row that cannot be opened, and at no line. -/
theorem exists_visited_of_treeLines_eq_error {fault : Fault}
    (failed : treeLines snapshot theme style depth tops = .error fault) :
    ∃ (level : Nat) (row : Row), Visited snapshot tops level row ∧ level + 1 < depth ∧
      row.children snapshot = .error fault ∧ fault.isTreeFault = false := by
  rcases exists_of_reportLines_eq_error failed with stopped | ⟨line, listed, unread⟩
  · rcases exists_visited_of_stop stopped with ⟨level, row, visited, above, unopened, outside⟩
    exact ⟨level, row, visited, by omega, unopened, outside⟩
  · cases line with
    | row place marker row =>
        rcases exists_visited_of_line listed with ⟨level, visited, _⟩
        rcases (visited.isBuilt built).exists_rowText theme style with ⟨text, shown⟩
        rw [lineText, shown] at unread
        cases unread
    | fault place cause => cases unread

/-- Printing fails exactly if a row that has to be opened meets an infinite number. -/
theorem treeLines_eq_error_iff (fault : Fault) :
    treeLines snapshot theme style depth tops = .error fault ↔
      fault = .infiniteInteger ∧ OpensInfinity snapshot depth tops := by
  have onlyIf : ∀ fault, treeLines snapshot theme style depth tops = .error fault ->
      fault = .infiniteInteger ∧ OpensInfinity snapshot depth tops := by
    intro fault failed
    rcases exists_visited_of_treeLines_eq_error built theme style depth failed with
      ⟨level, row, visited, above, unopened, outside⟩
    have opening := (visited.isBuilt built).children_typed snapshot
    rcases opening.typed fault unopened with typed | rfl
    · rw [Fault.isTreeFault] at outside
      rcases typed with kind | kind | kind <;> rw [kind] at outside <;> cases outside
    · exact ⟨rfl, level, row, visited, above, opening.infinite_iff.mp unopened⟩
  constructor
  · exact onlyIf fault
  · rintro ⟨rfl, level, row, visited, above, infinite⟩
    have unopened := ((visited.isBuilt built).children_typed snapshot).infinite_iff.mpr infinite
    have part := visited.failure_isInfix (by omega : level < (depth - 1).toNat) unopened
    cases printed : treeLines snapshot theme style depth tops with
    | error other => rw [(onlyIf other printed).1]
    | ok lines =>
        apply absurd (part.subset _) (not_stop_of_reportLines printed .infiniteInteger)
        simp [Fault.isTreeFault, Fault.kind, FaultKind.isTreeFault]

end Built

/-- Among lines, each row of a tree that could not be opened is followed by its fault. -/
def ShowsFailures (snapshot : Snapshot) (theme : Theme) (style : Option Style) (depth : Int)
    (tops : List Row) (lines : List String) : Prop :=
  ∀ (level : Nat) (row : Row) (fault : Fault), Visited snapshot tops level row ->
    level + 1 < depth -> row.children snapshot = .error fault ->
      ∃ shown, [Line.row level .opened row, .fault level fault].mapM (lineText theme style) =
        .ok shown ∧ shown <:+: lines

/-- If a tree is printed, its failures are shown in their places. -/
theorem showsFailures_of_treeLines {snapshot : Snapshot} {tops : List Row} {theme : Theme}
    {style : Option Style} {depth : Int} {lines : List String}
    (printed : treeLines snapshot theme style depth tops = .ok lines) :
    ShowsFailures snapshot theme style depth tops lines := by
  intro level row fault visited above failed
  have part := visited.failure_isInfix (by omega : level < (depth - 1).toNat) failed
  cases inTree : fault.isTreeFault with
  | false =>
      apply absurd (part.subset _) (not_stop_of_reportLines printed fault)
      simp [inTree]
  | true =>
      rcases exists_of_isInfix part printed with ⟨before, shown, after, partPrinted, rfl⟩
      refine ⟨shown, ?_, before, after, by rw [List.append_assoc]⟩
      have listed := mapM_lineText_of_reportLines partPrinted
      have unlisted :
          ((row.childrenNotes snapshot).map Report.note).filterMap Report.line? = [] := by
        rw [List.filterMap_map]
        exact List.filterMap_eq_nil_iff.mpr fun note _ => rfl
      simp only [inTree, if_true, List.filterMap_cons, List.filterMap_append, unlisted,
        Report.line?, List.filterMap_nil, List.nil_append] at listed
      exact listed

end RefTree
