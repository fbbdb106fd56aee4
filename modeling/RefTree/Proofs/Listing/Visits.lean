import RefTree.Proofs.Listing.Preorder
import RefTree.Proofs.Row.Built

namespace RefTree

/-!
# What the printer visits

Printing walks down from the top rows and opens whatever lies above the depth.  The rows that it can
come to are described here without the walk, by the level at which each is reached.  The walk then
reports these rows and no others: the reports of a visited row stand together in the reports of the
whole tree, a stop comes from a visited row that could not be opened, and a closed row lies on the
last level.
-/

/-- The rows that are reached from top rows by opening, each with its level. -/
inductive Visited (snapshot : Snapshot) (tops : List Row) : Nat -> Row -> Prop
  | top {row : Row} (member : row ∈ tops) : Visited snapshot tops 0 row
  | child {level : Nat} {row child : Row} {children : List Row}
      (above : Visited snapshot tops level row) (opened : row.children snapshot = .ok children)
      (member : child ∈ children) : Visited snapshot tops (level + 1) child

namespace Visited

variable {snapshot : Snapshot} {tops : List Row}

/-- What is reached from the children of a top row is reached from the top, one level deeper. -/
theorem under {top : Row} {children : List Row} (member : top ∈ tops)
    (opened : top.children snapshot = .ok children) {level : Nat} {row : Row}
    (visited : Visited snapshot children level row) : Visited snapshot tops (level + 1) row := by
  induction visited with
  | top belongs => exact .child (.top member) opened belongs
  | child _ reopened belongs inductionHypothesis =>
      exact .child inductionHypothesis reopened belongs

theorem isBuilt (built : ∀ row ∈ tops, row.IsBuilt) {level : Nat} {row : Row}
    (visited : Visited snapshot tops level row) : row.IsBuilt := by
  induction visited with
  | top member => exact built _ member
  | child _ opened member inductionHypothesis =>
      exact (inductionHypothesis.follows_children opened _ member).1

end Visited

/-! ## Lines among reports -/

def Report.line? : Report -> Option Line
  | .line shown => some shown
  | _ => none

theorem Report.mem_filterMap_line? {given : List Report} {line : Line} :
    line ∈ given.filterMap Report.line? ↔ .line line ∈ given := by
  rw [List.mem_filterMap]
  constructor
  · rintro ⟨report, member, found⟩
    cases report with
    | line other =>
        cases found
        exact member
    | note note => cases found
    | stop fault => cases found
  · intro member
    exact ⟨_, member, rfl⟩

/-- If reports are printed, every line among them is, and nothing else. -/
theorem mapM_lineText_of_reportLines {theme : Theme} {style : Option Style}
    {given : List Report} {lines : List String}
    (printed : reportLines theme style given = .ok lines) :
    (given.filterMap Report.line?).mapM (lineText theme style) = .ok lines := by
  induction given generalizing lines with
  | nil => exact printed
  | cons report rest inductionHypothesis =>
      cases report with
      | line line =>
          rw [reportLines, Outcome.bind_eq_ok_iff] at printed
          rcases printed with ⟨text, shown, later⟩
          rcases Outcome.bind_pure_eq_ok_iff.mp later with ⟨others, following, rfl⟩
          have first : (Report.line line).line? = some line := rfl
          rw [List.filterMap_cons_some first, List.mapM_cons, shown, Outcome.ok_bind,
            inductionHypothesis following, Outcome.ok_bind, Outcome.pure_eq_ok]
      | note note => exact inductionHypothesis printed
      | stop fault => cases printed

/-- Printing fails at a stop or at a line that has no text. -/
theorem exists_of_reportLines_eq_error {theme : Theme} {style : Option Style}
    {given : List Report} {fault : Fault}
    (failed : reportLines theme style given = .error fault) :
    .stop fault ∈ given ∨
      ∃ line, .line line ∈ given ∧ lineText theme style line = .error fault := by
  induction given with
  | nil => cases failed
  | cons report rest inductionHypothesis =>
      have later : reportLines theme style rest = .error fault ->
          .stop fault ∈ report :: rest ∨
            ∃ line, .line line ∈ report :: rest ∧ lineText theme style line = .error fault := by
        intro restFailed
        rcases inductionHypothesis restFailed with stopped | ⟨line, member, unread⟩
        · exact Or.inl (List.mem_cons_of_mem _ stopped)
        · exact Or.inr ⟨line, List.mem_cons_of_mem _ member, unread⟩
      cases report with
      | line line =>
          rw [reportLines] at failed
          rcases Outcome.bind_eq_error_iff.mp failed with unread | ⟨_, _, following⟩
          · exact Or.inr ⟨line, List.mem_cons_self, unread⟩
          · rcases Outcome.bind_eq_error_iff.mp following with restFailed | ⟨_, _, impossible⟩
            · exact later restFailed
            · cases impossible
      | note note => exact later failed
      | stop other =>
          cases failed
          exact Or.inl List.mem_cons_self

/-- The lines of reports that stand together stand together. -/
theorem exists_of_isInfix {theme : Theme} {style : Option Style} {part whole : List Report}
    (within : part <:+: whole) {lines : List String}
    (printed : reportLines theme style whole = .ok lines) :
    ∃ before shown after, reportLines theme style part = .ok shown ∧
      lines = before ++ (shown ++ after) := by
  rcases within with ⟨first, last, rfl⟩
  rw [List.append_assoc, reportLines_append, Outcome.bind_eq_ok_iff] at printed
  rcases printed with ⟨before, _, later⟩
  rcases Outcome.bind_pure_eq_ok_iff.mp later with ⟨rest, following, rfl⟩
  rw [reportLines_append, Outcome.bind_eq_ok_iff] at following
  rcases following with ⟨shown, partPrinted, later⟩
  rcases Outcome.bind_pure_eq_ok_iff.mp later with ⟨after, _, rfl⟩
  exact ⟨before, shown, after, partPrinted, rfl⟩

/-! ## Where reports come from -/

theorem reports_isInfix_of_mem {snapshot : Snapshot} {remaining level : Nat} {row : Row}
    {rows : List Row} (member : row ∈ rows) :
    reports snapshot remaining level [row] <:+: reports snapshot remaining level rows := by
  rcases List.append_of_mem member with ⟨first, last, rfl⟩
  refine ⟨reports snapshot remaining level first, reports snapshot remaining level last, ?_⟩
  rw [List.append_assoc, ← reports_append, ← reports_append, List.singleton_append]

/-- The reports of a visited row stand together in the reports of the tree. -/
theorem Visited.reports_isInfix {snapshot : Snapshot} {tops : List Row} {level : Nat} {row : Row}
    (visited : Visited snapshot tops level row) {remaining : Nat} (within : level ≤ remaining) :
    reports snapshot (remaining - level) level [row] <:+: reports snapshot remaining 0 tops := by
  induction visited with
  | top member => exact reports_isInfix_of_mem member
  | @child level row child children _ opened member inductionHypothesis =>
      have parent := inductionHypothesis (by omega)
      have one : remaining - level = remaining - (level + 1) + 1 := by omega
      have expandable : row.expandable = true := by
        by_contra shut
        rw [Row.children_of_not_expandable (by simpa using shut)] at opened
        cases opened
        cases member
      rw [one, reports_of_expandable expandable, opened] at parent
      have below : reports snapshot (remaining - (level + 1)) (level + 1) [child] <:+:
          reports snapshot (remaining - (level + 1)) (level + 1) children :=
        reports_isInfix_of_mem member
      apply List.IsInfix.trans _ parent
      apply List.IsInfix.trans below
      exact (List.suffix_append _ _).isInfix.trans (List.suffix_cons _ _).isInfix

/-- A stop is the fault of a visited row above the last level, and lies outside the tree family. -/
theorem exists_visited_of_stop {snapshot : Snapshot} {remaining level : Nat} {rows : List Row}
    {fault : Fault} (stopped : .stop fault ∈ reports snapshot remaining level rows) :
    ∃ deeper row, Visited snapshot rows deeper row ∧ deeper < remaining ∧
      row.children snapshot = .error fault ∧ fault.isTreeFault = false := by
  induction remaining generalizing level rows with
  | zero =>
      rcases List.mem_map.mp stopped with ⟨_, _, impossible⟩
      cases impossible
  | succ remaining inductionHypothesis =>
      rw [reports_eq_flatMap] at stopped
      rcases List.mem_flatMap.mp stopped with ⟨row, member, inRow⟩
      cases expandable : row.expandable with
      | false => simp [reports_of_shut expandable] at inRow
      | true =>
          cases opened : row.children snapshot with
          | ok children =>
              simp only [reports_of_expandable expandable, opened, List.mem_cons, reduceCtorEq,
                false_or, List.mem_append, List.mem_map, and_false, exists_false] at inRow
              rcases inductionHypothesis inRow with ⟨deeper, culprit, visited, above, failed⟩
              exact ⟨deeper + 1, culprit, visited.under member opened, by omega, failed⟩
          | error other =>
              cases shown : other.isTreeFault with
              | true => simp [reports_of_expandable expandable, opened, shown] at inRow
              | false =>
                  simp only [reports_of_expandable expandable, opened, shown, Bool.false_eq_true,
                    if_false, List.mem_cons, reduceCtorEq, false_or, List.mem_append, List.mem_map,
                    and_false, exists_false, Report.stop.injEq, List.not_mem_nil, or_false] at inRow
                  subst inRow
                  exact ⟨0, row, .top member, by omega, opened, shown⟩

/-- A row that is listed was visited. -/
theorem exists_visited_of_line {snapshot : Snapshot} {remaining level place : Nat}
    {marker : Marker} {row : Row} {rows : List Row}
    (listed : .line (.row place marker row) ∈ reports snapshot remaining level rows) :
    ∃ deeper, Visited snapshot rows deeper row ∧ place = level + deeper ∧
      (marker = .closed -> deeper = remaining) := by
  induction remaining generalizing level rows with
  | zero =>
      rcases List.mem_map.mp listed with ⟨other, member, same⟩
      cases same
      exact ⟨0, .top member, rfl, fun _ => rfl⟩
  | succ remaining inductionHypothesis =>
      rw [reports_eq_flatMap] at listed
      rcases List.mem_flatMap.mp listed with ⟨top, member, inTop⟩
      cases expandable : top.expandable with
      | false =>
          rw [reports_of_shut expandable, List.mem_singleton] at inTop
          cases inTop
          exact ⟨0, .top member, rfl, nofun⟩
      | true =>
          rw [reports_of_expandable expandable, List.mem_cons, List.mem_append] at inTop
          rcases inTop with first | note | inBelow
          · cases first
            exact ⟨0, .top member, rfl, nofun⟩
          · simp at note
          · cases opened : top.children snapshot with
            | ok children =>
                rw [opened] at inBelow
                rcases inductionHypothesis inBelow with ⟨deeper, visited, same, last⟩
                refine ⟨deeper + 1, visited.under member opened, by omega, ?_⟩
                intro closed
                rw [last closed]
            | error fault =>
                rw [opened] at inBelow
                cases shown : fault.isTreeFault with
                | true => simp [shown] at inBelow
                | false => simp [shown] at inBelow

end RefTree
