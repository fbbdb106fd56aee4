import RefTree.Listing
import RefTree.Proofs.Outcome

namespace RefTree

/-!
# Printed trees are listed in preorder

The printer walks rows and opens them while it goes.  What it should print is said apart from the
walk: rows are unfolded to a tree first, and the tree is then listed, each row before the rows below
it.  A tree says nothing about lines, and a listing never looks at the snapshot.

Values are not coloured here, so a row always has a text.  The printer then stops early only at a
fault outside the tree family, which unfolding stops at too; any other fault takes the place of one
subtree and leaves all other lines alone.
-/

/-! ## Unfolded trees -/

namespace Tree

/-- The tree of a row at a level, unfolded to a depth.  A row is open exactly if it can be opened
and its children still lie above the depth; if opening it fails, the fault stands for its
children. -/
inductive IsUnfolding (snapshot : Snapshot) (depth : Int) : Nat -> Tree -> Prop
  | leaf {level : Nat} {row : Row} (shut : row.expandable = false) :
      IsUnfolding snapshot depth level (.closed row)
  | bounded {level : Nat} {row : Row} (beyond : depth ≤ level + 1) :
      IsUnfolding snapshot depth level (.closed row)
  | opened {level : Nat} {row : Row} {trees : List Tree} (expandable : row.expandable = true)
      (within : level + 1 < depth) (children : row.children snapshot = .ok (trees.map Tree.row))
      (below : ∀ tree ∈ trees, IsUnfolding snapshot depth (level + 1) tree) :
      IsUnfolding snapshot depth level (.opened row trees)
  | failed {level : Nat} {row : Row} {fault : Fault} (expandable : row.expandable = true)
      (within : level + 1 < depth) (children : row.children snapshot = .error fault)
      (shown : fault.isTreeFault = true) :
      IsUnfolding snapshot depth level (.failed row fault)

mutual

/-- A tree and all trees in it, each before those below it. -/
def parts : Tree -> List Tree
  | .closed row => [.closed row]
  | .opened row children => .opened row children :: partsAll children
  | .failed row fault => [.failed row fault]

def partsAll : List Tree -> List Tree
  | [] => []
  | tree :: rest => tree.parts ++ partsAll rest

end

/-- Decide whether the row of a tree could not be opened. -/
def isFailed : Tree -> Bool
  | .failed _ _ => true
  | _ => false

end Tree

/-- Trees that unfold rows, one for each. -/
def Unfolds (snapshot : Snapshot) (depth : Int) (rows : List Row) (trees : List Tree) : Prop :=
  trees.map Tree.row = rows ∧ ∀ tree ∈ trees, tree.IsUnfolding snapshot depth 0

/-! ## Listings -/

/-- The marker of a row at a level, in a listing to a depth. -/
def markerAt (depth : Int) (level : Nat) (row : Row) : Marker :=
  if row.expandable then
    if level + 1 < depth then .opened else .closed
  else .blank

namespace Tree

mutual

/-- The lines of a tree at a level: its row, and then the lines of its children or the fault that
stands for them. -/
def listing (depth : Int) (level : Nat) : Tree -> List Line
  | .closed row => [.row level (markerAt depth level row) row]
  | .opened row children =>
      .row level (markerAt depth level row) row :: listingAll depth (level + 1) children
  | .failed row fault => [.row level (markerAt depth level row) row, .fault level fault]

def listingAll (depth : Int) (level : Nat) : List Tree -> List Line
  | [] => []
  | tree :: rest => tree.listing depth level ++ listingAll depth level rest

end

end Tree

/-- The text of a row whose value is not coloured. -/
def Row.text (theme : Theme) (row : Row) : String :=
  match rowText theme none row with
  | .ok text => text
  | .error _ => ""

/-- The text of a line whose value is not coloured. -/
def Line.text (theme : Theme) : Line -> String
  | .row level marker shown =>
      indentation level ++ theme.treeMarker ++ marker.text ++ theme.reset ++ shown.text theme
  | .fault level cause =>
      indentation level ++ "    " ++ theme.error ++ "error: " ++ cause.message ++ theme.reset

theorem referenceText_none (row : Row) : referenceText row none = .ok row.label.text := by
  unfold referenceText
  split
  · contradiction
  · rfl

/-- A row whose value is not coloured always has a text. -/
theorem rowText_none (theme : Theme) (row : Row) :
    rowText theme none row = .ok (row.text theme) := by
  have exists_text : ∃ text, rowText theme none row = .ok text := by
    unfold rowText
    split
    · exact ⟨_, rfl⟩
    · split
      · exact ⟨_, rfl⟩
      · exact ⟨_, rfl⟩
      · exact ⟨_, rfl⟩
      · rw [referenceText_none, Outcome.ok_bind]
        exact ⟨_, rfl⟩
  rcases exists_text with ⟨text, found⟩
  unfold Row.text
  rw [found]

theorem lineText_none (theme : Theme) (line : Line) :
    lineText theme none line = .ok (line.text theme) := by
  cases line with
  | row level marker shown =>
      simp only [lineText, rowText_none, Outcome.ok_bind]
      rfl
  | fault level fault => rfl

/-! ## The walk -/

theorem reportLines_append (theme : Theme) (style : Option Style) (first second : List Report) :
    reportLines theme style (first ++ second) = do
      let before <- reportLines theme style first
      let after <- reportLines theme style second
      return before ++ after := by
  induction first with
  | nil => exact (bind_pure (reportLines theme style second)).symm
  | cons report rest inductionHypothesis =>
      cases report with
      | line line => simp [reportLines, inductionHypothesis]
      | note note => simp [reportLines, inductionHypothesis]
      | stop fault => rfl

theorem reportLines_notes (theme : Theme) (style : Option Style) (notes : List Note)
    (rest : List Report) :
    reportLines theme style (notes.map .note ++ rest) = reportLines theme style rest := by
  induction notes with
  | nil => rfl
  | cons note notes inductionHypothesis => exact inductionHypothesis

/-- The lines of reports that are made piece by piece are the lines of the pieces. -/
theorem reportLines_flatMap {input : Type} (theme : Theme) (style : Option Style)
    (piece : input -> List Report) (inputs : List input) :
    reportLines theme style (inputs.flatMap piece) =
      (inputs.mapM fun element => reportLines theme style (piece element)).map List.flatten := by
  induction inputs with
  | nil => rfl
  | cons element rest inductionHypothesis =>
      rw [List.flatMap_cons, reportLines_append, inductionHypothesis, List.mapM_cons]
      cases reportLines theme style (piece element) with
      | error fault => rfl
      | ok lines =>
          cases rest.mapM fun other => reportLines theme style (piece other) with
          | error fault => rfl
          | ok others => rfl

namespace Tree

theorem listingAll_eq_flatMap (depth : Int) (level : Nat) (trees : List Tree) :
    listingAll depth level trees = trees.flatMap (listing depth level) := by
  induction trees with
  | nil => rfl
  | cons tree rest inductionHypothesis =>
      rw [listingAll, inductionHypothesis, List.flatMap_cons]

end Tree

/-- Rows are reported one by one. -/
theorem reports_eq_flatMap (snapshot : Snapshot) (remaining level : Nat) (rows : List Row) :
    reports snapshot remaining level rows =
      rows.flatMap fun row => reports snapshot remaining level [row] := by
  induction rows with
  | nil => cases remaining <;> rfl
  | cons row rest inductionHypothesis =>
      rw [List.flatMap_cons, ← inductionHypothesis]
      exact reports_append snapshot remaining level [row] rest

theorem reports_of_shut {row : Row} (shut : row.expandable = false) (snapshot : Snapshot)
    (remaining level : Nat) :
    reports snapshot remaining level [row] = [.line (.row level .blank row)] := by
  cases remaining with
  | zero => simp [reports, shut]
  | succ remaining => simp [reports, shut]

theorem reports_of_expandable {row : Row} (expandable : row.expandable = true)
    (snapshot : Snapshot) (remaining level : Nat) :
    reports snapshot (remaining + 1) level [row] =
      .line (.row level .opened row) :: ((row.childrenNotes snapshot).map .note ++
        match row.children snapshot with
        | .ok children => reports snapshot remaining (level + 1) children
        | .error fault =>
            if fault.isTreeFault then
              [.note (failureNote row fault), .line (.fault level fault)]
            else [.stop fault]) := by
  cases children : row.children snapshot with
  | ok rows => simp [reports, expandable, children]
  | error fault => simp [reports, expandable, children]

namespace Tree

theorem unfold_of_shut {row : Row} (shut : row.expandable = false) (snapshot : Snapshot)
    (levels : Nat) : unfold snapshot levels row = .ok (.closed row) := by
  cases levels with
  | zero => rfl
  | succ levels => simp [unfold, shut]

theorem unfold_of_expandable {row : Row} (expandable : row.expandable = true)
    (snapshot : Snapshot) (levels : Nat) :
    unfold snapshot (levels + 1) row =
      match row.children snapshot with
      | .ok rows => do return .opened row (<- rows.mapM (unfold snapshot levels))
      | .error fault => if fault.isTreeFault then .ok (.failed row fault) else .error fault := by
  cases children : row.children snapshot with
  | ok rows => simp [unfold, expandable, children]
  | error fault => simp [unfold, expandable, children]

end Tree

/-! ## The walk lists the unfolded tree -/

theorem reportLines_line (theme : Theme) (line : Line) (rest : List Report) :
    reportLines theme none (.line line :: rest) =
      (reportLines theme none rest).map fun lines => line.text theme :: lines := by
  rw [reportLines, lineText_none, Outcome.ok_bind]
  cases reportLines theme none rest with
  | error fault => rfl
  | ok lines => rfl

/-- If the lines of every single row are the listing of its tree, so are the lines of rows. -/
theorem reportLines_reports_all {snapshot : Snapshot} {theme : Theme} {depth : Int}
    {remaining level : Nat}
    (each : ∀ row, reportLines theme none (reports snapshot remaining level [row]) =
      (Tree.unfold snapshot remaining row).map fun tree =>
        (tree.listing depth level).map (Line.text theme)) (rows : List Row) :
    reportLines theme none (reports snapshot remaining level rows) =
      (rows.mapM (Tree.unfold snapshot remaining)).map fun trees =>
        (Tree.listingAll depth level trees).map (Line.text theme) := by
  rw [reports_eq_flatMap, reportLines_flatMap]
  simp only [each]
  rw [Outcome.mapM_map_eq]
  cases rows.mapM (Tree.unfold snapshot remaining) with
  | error fault => rfl
  | ok trees =>
      simp only [Except.map, Tree.listingAll_eq_flatMap, List.map_flatMap]
      rw [List.flatMap_def]

/-- The lines of one row are the listing of its tree, and both stop at the same faults.  As many
levels remain as lie between the row and the depth. -/
theorem reportLines_reports (snapshot : Snapshot) (theme : Theme) (depth : Int)
    {remaining level : Nat} (bound : remaining = (depth - 1 - level).toNat) (row : Row) :
    reportLines theme none (reports snapshot remaining level [row]) =
      (Tree.unfold snapshot remaining row).map fun tree =>
        (tree.listing depth level).map (Line.text theme) := by
  induction remaining generalizing level row with
  | zero =>
      have beyond : ¬(level + 1 < depth) := by omega
      have marked : markerAt depth level row = if row.expandable then .closed else .blank := by
        simp only [markerAt, beyond, if_false]
      simp only [Tree.unfold, Except.map, Tree.listing, marked]
      exact reportLines_line theme _ []
  | succ remaining inductionHypothesis =>
      have within : level + 1 < depth := by omega
      have next : remaining = (depth - 1 - (level + 1 : Nat)).toNat := by omega
      cases expandable : row.expandable with
      | false =>
          have marked : markerAt depth level row = .blank := by simp [markerAt, expandable]
          rw [reports_of_shut expandable, Tree.unfold_of_shut expandable, reportLines_line]
          simp only [Except.map, Tree.listing, marked, reportLines, List.map_cons, List.map_nil]
      | true =>
          have marked : markerAt depth level row = .opened := by simp [markerAt, expandable, within]
          rw [reports_of_expandable expandable, Tree.unfold_of_expandable expandable,
            reportLines_line, reportLines_notes]
          cases row.children snapshot with
          | ok rows =>
              simp only
              rw [reportLines_reports_all (inductionHypothesis next)]
              cases rows.mapM (Tree.unfold snapshot remaining) with
              | error fault => rfl
              | ok trees =>
                  simp only [Except.map, Outcome.ok_bind, Outcome.pure_eq_ok, Tree.listing, marked,
                    List.map_cons]
          | error fault =>
              cases shown : fault.isTreeFault with
              | true =>
                  simp only [shown, if_true, Except.map, Tree.listing, marked, reportLines]
                  rfl
              | false =>
                  simp only [shown]
                  rfl

/-- The lines of rows are the listing of their trees, and both stop at the same faults. -/
theorem treeLines_eq (snapshot : Snapshot) (theme : Theme) (depth : Int) (rows : List Row) :
    treeLines snapshot theme none depth rows =
      (Tree.unfoldRows snapshot depth rows).map fun trees =>
        (Tree.listingAll depth 0 trees).map (Line.text theme) := by
  have bound : (depth - 1).toNat = (depth - 1 - (0 : Nat)).toNat := by omega
  exact reportLines_reports_all (reportLines_reports snapshot theme depth bound) rows

/-! ## Unfolding gives the tree of that depth -/

namespace Tree

/-- If every single row unfolds to a tree of its own, so do rows. -/
theorem isUnfolding_of_mapM {snapshot : Snapshot} {depth : Int} {levels level : Nat}
    (each : ∀ row tree, unfold snapshot levels row = .ok tree ->
      tree.row = row ∧ tree.IsUnfolding snapshot depth level)
    {rows : List Row} {trees : List Tree}
    (run : rows.mapM (unfold snapshot levels) = .ok trees) :
    trees.map Tree.row = rows ∧ ∀ tree ∈ trees, tree.IsUnfolding snapshot depth level := by
  have made := Outcome.mapM_eq_ok_iff.mp run
  constructor
  · have sameRows : List.Forall₂ (· = ·) (trees.map Tree.row) rows := by
      apply List.forall₂_map_left_iff.mpr
      apply made.flip.imp
      intro tree row unfolded
      exact (each row tree unfolded).1
    rw [List.forall₂_eq_eq_eq] at sameRows
    exact sameRows
  · intro tree member
    rcases Outcome.exists_of_mem_right made member with ⟨row, _, unfolded⟩
    exact (each row tree unfolded).2

theorem isUnfolding_of_unfold {snapshot : Snapshot} {depth : Int} {levels level : Nat}
    (bound : levels = (depth - 1 - level).toNat) {row : Row} {tree : Tree}
    (unfolded : unfold snapshot levels row = .ok tree) :
    tree.row = row ∧ tree.IsUnfolding snapshot depth level := by
  induction levels generalizing level row tree with
  | zero =>
      cases unfolded
      exact ⟨rfl, .bounded (by omega)⟩
  | succ levels inductionHypothesis =>
      have within : level + 1 < depth := by omega
      have next : levels = (depth - 1 - (level + 1 : Nat)).toNat := by omega
      cases expandable : row.expandable with
      | false =>
          rw [unfold_of_shut expandable] at unfolded
          cases unfolded
          exact ⟨rfl, .leaf expandable⟩
      | true =>
          rw [unfold_of_expandable expandable] at unfolded
          split at unfolded
          · rename_i rows opened
            rcases Outcome.bind_pure_eq_ok_iff.mp unfolded with ⟨trees, run, rfl⟩
            rcases isUnfolding_of_mapM (fun _ _ => inductionHypothesis next) run with
              ⟨sameRows, below⟩
            exact ⟨rfl, .opened expandable within (by rw [opened, sameRows]) below⟩
          · rename_i fault failed
            split at unfolded
            · rename_i shown
              cases unfolded
              exact ⟨rfl, .failed expandable within failed shown⟩
            · cases unfolded

theorem mapM_unfold_of_forall {snapshot : Snapshot} {levels : Nat} {trees : List Tree}
    (each : ∀ tree ∈ trees, unfold snapshot levels tree.row = .ok tree) :
    (trees.map Tree.row).mapM (unfold snapshot levels) = .ok trees := by
  apply Outcome.mapM_eq_ok_iff.mpr
  rw [List.forall₂_map_left_iff]
  exact List.forall₂_same.mpr each

theorem IsUnfolding.unfold_eq {snapshot : Snapshot} {depth : Int} {level : Nat} {tree : Tree}
    (unfolding : tree.IsUnfolding snapshot depth level) :
    unfold snapshot (depth - 1 - level).toNat tree.row = .ok tree := by
  induction unfolding with
  | leaf shut => exact unfold_of_shut shut snapshot _
  | @bounded level row beyond =>
      have none : (depth - 1 - level).toNat = 0 := by omega
      rw [none]
      rfl
  | @opened level row trees expandable within children below inductionHypothesis =>
      have one : (depth - 1 - level).toNat = (depth - 1 - (level + 1 : Nat)).toNat + 1 := by omega
      have run := mapM_unfold_of_forall inductionHypothesis
      rw [one, Tree.row, unfold_of_expandable expandable, children]
      simp only
      rw [run, Outcome.ok_bind, Outcome.pure_eq_ok]
  | @failed level row fault expandable within children shown =>
      have one : (depth - 1 - level).toNat = (depth - 1 - (level + 1 : Nat)).toNat + 1 := by omega
      rw [one, Tree.row, unfold_of_expandable expandable, children]
      simp only
      rw [if_pos shown]

/-- Unfolding stops only at a fault outside the tree family. -/
theorem isTreeFault_of_unfold {snapshot : Snapshot} {levels : Nat} {row : Row} {fault : Fault}
    (failed : unfold snapshot levels row = .error fault) : fault.isTreeFault = false := by
  induction levels generalizing row with
  | zero => cases failed
  | succ levels inductionHypothesis =>
      cases expandable : row.expandable with
      | false =>
          rw [unfold_of_shut expandable] at failed
          cases failed
      | true =>
          rw [unfold_of_expandable expandable] at failed
          split at failed
          · rcases Outcome.bind_eq_error_iff.mp failed with early | ⟨_, _, impossible⟩
            · rcases Outcome.exists_of_mapM_eq_error early with ⟨child, _, childFailed⟩
              exact inductionHypothesis childFailed
            · cases impossible
          · rename_i other _
            cases shown : other.isTreeFault with
            | true =>
                rw [if_pos shown] at failed
                cases failed
            | false =>
                rw [if_neg (by simp [shown])] at failed
                cases failed
                exact shown

/-! ## The length of a listing -/

mutual

theorem length_listing (depth : Int) (level : Nat) : (tree : Tree) ->
    (tree.listing depth level).length = tree.parts.length + tree.parts.countP isFailed
  | .closed row => rfl
  | .opened row children => by
      have below := length_listingAll depth (level + 1) children
      simp only [listing, parts, List.length_cons, List.countP_cons, isFailed]
      simp only [Bool.false_eq_true, if_false]
      omega
  | .failed row fault => rfl

/-- A listing has one line for each row and one more for each row that could not be opened. -/
theorem length_listingAll (depth : Int) (level : Nat) : (trees : List Tree) ->
    (listingAll depth level trees).length =
      (partsAll trees).length + (partsAll trees).countP isFailed
  | [] => rfl
  | tree :: rest => by
      have first := tree.length_listing depth level
      have others := length_listingAll depth level rest
      simp only [listingAll, partsAll, List.length_append, List.countP_append]
      omega

end

end Tree

/-- Rows unfold to trees exactly if unfolding them level by level gives these. -/
theorem unfoldRows_eq_ok_iff {snapshot : Snapshot} {depth : Int} {rows : List Row}
    {trees : List Tree} :
    Tree.unfoldRows snapshot depth rows = .ok trees ↔ Unfolds snapshot depth rows trees := by
  have bound : (depth - 1).toNat = (depth - 1 - (0 : Nat)).toNat := by omega
  unfold Tree.unfoldRows Unfolds
  constructor
  · intro run
    exact Tree.isUnfolding_of_mapM (fun _ _ => Tree.isUnfolding_of_unfold bound) run
  · rintro ⟨rfl, unfolding⟩
    rw [bound]
    exact Tree.mapM_unfold_of_forall fun tree member => (unfolding tree member).unfold_eq

/-! ## What is printed -/

/-- If a tree is printed without colouring values, its lines are the listing of the trees that its
rows unfold to, and they are as many as there are rows and failures in these trees.  Printing ends
early only at a fault outside the tree family, and rows are printed independently of the rows beside
them. -/
theorem tree_is_printed_in_preorder (snapshot : Snapshot) (theme : Theme) (depth : Int)
    (rows : List Row) :
    (∀ lines, treeLines snapshot theme none depth rows = .ok lines ↔
      ∃ trees, Unfolds snapshot depth rows trees ∧
        lines = (Tree.listingAll depth 0 trees).map (Line.text theme) ∧
        lines.length = (Tree.partsAll trees).length + (Tree.partsAll trees).countP Tree.isFailed) ∧
    (∀ fault, treeLines snapshot theme none depth rows = .error fault ->
      fault.isTreeFault = false) ∧
    ∀ more, treeLines snapshot theme none depth (rows ++ more) = do
      let before <- treeLines snapshot theme none depth rows
      let after <- treeLines snapshot theme none depth more
      return before ++ after := by
  refine ⟨?_, ?_, ?_⟩
  · intro lines
    rw [treeLines_eq, Outcome.map_eq_ok_iff]
    constructor
    · rintro ⟨trees, unfolded, rfl⟩
      refine ⟨trees, unfoldRows_eq_ok_iff.mp unfolded, rfl, ?_⟩
      rw [List.length_map, Tree.length_listingAll]
    · rintro ⟨trees, unfolds, listed, _⟩
      exact ⟨trees, unfoldRows_eq_ok_iff.mpr unfolds, listed⟩
  · intro fault failed
    rw [treeLines_eq, Outcome.map_eq_error_iff] at failed
    rcases Outcome.exists_of_mapM_eq_error failed with ⟨row, _, rowFailed⟩
    exact Tree.isTreeFault_of_unfold rowFailed
  · intro more
    unfold treeLines treeReports
    rw [reports_append, reportLines_append]

namespace BrokenTree

open Document

def payload (id : String) (line : Value) : Value :=
  .object [("id", .text id), ("range", .object [("file", .text "f"),
    ("startpos", .object [("line", line)])])]

/-- The symbol `s` is called by itself and by `c`, which has no record, and what uses `s` is no
list.  Where `s` is overridden is not known either, since the line number is infinite. -/
def snapshot : Snapshot where
  members := [
    ("files", .object [("f", .object [])]),
    ("symbols", .object [("s", .object [
      ("reference_types", .object [(callerName, .int 0), (usageName, .int 1),
        ("Overridden by", .int 2)]),
      ("references", .object [("0", .list [payload "c" (.int 7), payload "s" (.int 8)]),
        ("1", .null), ("2", .list [payload "c" (.double (.infinite false))])])])])]

def symbol : Symbol where
  id := "s"
  range := none
  displayValue := "s"
  tags := []
  nameHash := 0

/-- The rows of callers and of uses, printed to the fourth level. -/
def printed : List String :=
  ["▾ Caller", "  ▾ f (2)", "    ▾ 7:0: ", "        error: unknown symbol id: c", "    ▾ 8:0: ",
    "      ▸ Caller", "▾ Usage", "    error: references of category 1 for symbol s are not a list"]

/-- Two failures stand in place of rows that could not be found, and the rows after them are not
disturbed.  The third row of the symbol cannot be printed. -/
theorem broken_tree_is_printed_in_preorder :
    ∃ callers uses overrides trees,
      focusRows snapshot (.symbol symbol) = .ok [callers, uses, overrides] ∧
      treeLines snapshot .plain none 4 [callers, uses] = .ok printed ∧
      Unfolds snapshot 4 [callers, uses] trees ∧
      printed = (Tree.listingAll 4 0 trees).map (Line.text .plain) ∧
      printed.length = (Tree.partsAll trees).length + (Tree.partsAll trees).countP Tree.isFailed ∧
      treeLines snapshot .plain none 4 [overrides] = .error .infiniteInteger ∧
      Fault.infiniteInteger.isTreeFault = false := by
  have shown : ∃ callers uses overrides,
      focusRows snapshot (.symbol symbol) = .ok [callers, uses, overrides] ∧
      treeLines snapshot .plain none 4 [callers, uses] = .ok printed ∧
      treeLines snapshot .plain none 4 [overrides] = .error .infiniteInteger :=
    ⟨_, _, _, rfl, rfl, rfl⟩
  rcases shown with ⟨callers, uses, overrides, tops, listing, stopped⟩
  rcases ((tree_is_printed_in_preorder snapshot .plain 4 [callers, uses]).1 _).mp listing with
    ⟨trees, unfolds, listed, counted⟩
  have outside := (tree_is_printed_in_preorder snapshot .plain 4 [overrides]).2.1 _ stopped
  exact ⟨callers, uses, overrides, trees, tops, listing, unfolds, listed, counted, stopped, outside⟩

end BrokenTree

end RefTree
