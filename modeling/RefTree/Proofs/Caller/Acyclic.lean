import RefTree.Proofs.Caller.Walks
import RefTree.Proofs.Listing.Visits

namespace RefTree

open Document

/-!
# Callers that come to an end

Callers of callers can be opened without limit where functions call each other.  If the chains of
callers in the snapshot are bounded, the tree is finite, and a depth that follows from the bound is
enough to print all of it: each caller takes three levels, for its group, for itself, and for the
category that is repeated below it.  Printing deeper then changes nothing, and no row is left
closed.

The measure is a bound on the levels below a row.  A row that fails to open ends there, so faults
need no case of their own.
-/

/-! ## Chains of callers -/

namespace Snapshot

/-- The references of an owner in a category.  A query that fails finds none. -/
def callers (snapshot : Snapshot) (category : Int) (owner : String) : List Reference :=
  (snapshot.references owner (.int category)).toOption.getD []

theorem callers_eq {snapshot : Snapshot} {category : Int} {owner : String}
    {found : List Reference} (answered : snapshot.references owner (.int category) = .ok found) :
    snapshot.callers category owner = found := by
  unfold callers
  rw [answered]
  rfl

/-- A sequence of callers: the first one is found for the owner and each further one for the one
before, all in one category. -/
inductive IsCallerChain (snapshot : Snapshot) (category : Int) : String -> List Reference -> Prop
  | none (owner : String) : IsCallerChain snapshot category owner []
  | caller {owner : String} {first : Reference} {rest : List Reference}
      (member : first ∈ snapshot.callers category owner)
      (further : IsCallerChain snapshot category first.id rest) :
      IsCallerChain snapshot category owner (first :: rest)

/-- All chains of callers of an owner are of limited length. -/
def CallerChainsAtMost (snapshot : Snapshot) (category : Int) (bound : Nat) (owner : String) :
    Prop :=
  ∀ chain, snapshot.IsCallerChain category owner chain -> chain.length ≤ bound

theorem callerChainsAtMost_zero_iff {snapshot : Snapshot} {category : Int} {owner : String} :
    snapshot.CallerChainsAtMost category 0 owner ↔ snapshot.callers category owner = [] := by
  constructor
  · intro bounded
    apply List.eq_nil_iff_forall_not_mem.mpr
    intro caller member
    have short := bounded [caller] (.caller member (.none caller.id))
    simp at short
  · intro empty chain chained
    cases chained with
    | none => exact Nat.le_refl 0
    | caller member =>
        rw [empty] at member
        cases member

/-- The chains from an owner are longer by one than those from its callers. -/
theorem callerChainsAtMost_succ_iff {snapshot : Snapshot} {category : Int} {bound : Nat}
    {owner : String} :
    snapshot.CallerChainsAtMost category (bound + 1) owner ↔
      ∀ caller ∈ snapshot.callers category owner,
        snapshot.CallerChainsAtMost category bound caller.id := by
  constructor
  · intro bounded caller member chain chained
    have longer := bounded (caller :: chain) (.caller member chained)
    exact Nat.le_of_succ_le_succ longer
  · intro bounded chain chained
    cases chained with
    | none => exact Nat.zero_le _
    | caller member further => exact Nat.succ_le_succ (bounded _ member _ further)

/-- Whether chains are bounded is decided by following them. -/
instance decidableCallerChainsAtMost (snapshot : Snapshot) (category : Int) :
    (bound : Nat) -> (owner : String) ->
      Decidable (snapshot.CallerChainsAtMost category bound owner)
  | 0, owner =>
      decidable_of_iff (snapshot.callers category owner = []) callerChainsAtMost_zero_iff.symm
  | bound + 1, owner =>
      have (caller : Reference) :
          Decidable (snapshot.CallerChainsAtMost category bound caller.id) :=
        decidableCallerChainsAtMost snapshot category bound caller.id
      decidable_of_iff
        (∀ caller ∈ snapshot.callers category owner,
          snapshot.CallerChainsAtMost category bound caller.id)
        callerChainsAtMost_succ_iff.symm

end Snapshot

/-! ## Trees that end -/

namespace Row

/-- At most a number of levels lie below a row. -/
def EndsWithin (snapshot : Snapshot) : Nat -> Row -> Prop
  | 0, row => row.expandable = false
  | levels + 1, row =>
      ∀ rows, row.children snapshot = .ok rows -> ∀ child ∈ rows, child.EndsWithin snapshot levels

theorem EndsWithin.mono {snapshot : Snapshot} {levels more : Nat} {row : Row}
    (ends : row.EndsWithin snapshot levels) (enough : levels ≤ more) :
    row.EndsWithin snapshot more := by
  induction levels generalizing more row with
  | zero =>
      cases more with
      | zero => exact ends
      | succ more =>
          intro rows opened child member
          rw [children_of_not_expandable ends] at opened
          cases opened
          cases member
  | succ levels inductionHypothesis =>
      cases more with
      | zero => omega
      | succ more =>
          intro rows opened child member
          exact inductionHypothesis (ends rows opened child member) (by omega)

theorem IsLeaf.endsWithin {row : Row} (leaf : row.IsLeaf) (snapshot : Snapshot) (levels : Nat) :
    row.EndsWithin snapshot levels := by
  have shut : row.EndsWithin snapshot 0 := leaf.shape.2.1
  exact shut.mono (Nat.zero_le levels)

/-- A row of callers ends three levels after the rows that repeat it below its callers. -/
theorem AsksFor.endsWithin {snapshot : Snapshot} {row : Row} {symbol : Symbol} {id : Int}
    {levels : Nat} (asks : row.AsksFor symbol id)
    (ends : ∀ caller ∈ snapshot.callers id symbol.id,
      (recursiveRow (.ofEntry (callerName, id)) caller).EndsWithin snapshot levels) :
    row.EndsWithin snapshot (levels + 3) := by
  intro groupRows opened groupRow groupMember
  rw [asks.children_eq snapshot] at opened
  rcases (categoryRows_grouped_eq_ok_iff (isGrouped_caller id)).mp opened with
    ⟨found, groups, answered, grouped, made⟩
  rcases Outcome.exists_of_mem_right made groupMember with ⟨group, belongs, groupMade⟩
  intro callerRows groupOpened shown shownMember
  rw [fileGroupRow_children groupMade, fileGroupRows_caller _ _ _ _ rfl] at groupOpened
  rcases Outcome.exists_of_mem_mapM groupOpened shownMember with ⟨caller, listed, callerMade⟩
  have isCaller : caller ∈ snapshot.callers id symbol.id := by
    rw [Snapshot.callers_eq answered]
    exact groupByFile_members_subset grouped belongs listed
  intro chainRows callerOpened child childMember
  rw [callerRow_children callerMade] at callerOpened
  rcases callChainRows_eq_ok_iff.mp callerOpened with ⟨sites, sitesFound, rfl⟩
  rcases List.mem_cons.mp childMember with rfl | later
  · exact ends caller isCaller
  · exact (isLeaf_of_callSiteRows sitesFound child later).endsWithin snapshot levels

/-- A row of callers shows nothing if there are none. -/
theorem AsksFor.endsWithin_of_no_callers {snapshot : Snapshot} {row : Row} {symbol : Symbol}
    {id : Int} (asks : row.AsksFor symbol id) (empty : snapshot.callers id symbol.id = []) :
    row.EndsWithin snapshot 1 := by
  intro rows opened child member
  rw [asks.children_eq snapshot] at opened
  rcases (categoryRows_grouped_eq_ok_iff (isGrouped_caller id)).mp opened with
    ⟨found, groups, answered, grouped, made⟩
  rw [← Snapshot.callers_eq answered, empty] at grouped
  cases grouped
  cases made
  cases member

/-- If chains of callers are bounded, so are the levels below a row of callers. -/
theorem AsksFor.endsWithin_of_chains {snapshot : Snapshot} {row : Row} {symbol : Symbol}
    {id : Int} {bound : Nat} (asks : row.AsksFor symbol id)
    (bounded : snapshot.CallerChainsAtMost id bound symbol.id) :
    row.EndsWithin snapshot (3 * bound + 1) := by
  induction bound generalizing row symbol with
  | zero => exact asks.endsWithin_of_no_callers (Snapshot.callerChainsAtMost_zero_iff.mp bounded)
  | succ bound inductionHypothesis =>
      have shorter := Snapshot.callerChainsAtMost_succ_iff.mp bounded
      exact asks.endsWithin fun caller member =>
        inductionHypothesis (asksFor_recursiveRow caller id) (shorter caller member)

/-- A category other than that of callers shows leaves, or groups of leaves. -/
theorem endsWithin_of_ne_caller (snapshot : Snapshot) (symbol : Symbol) {entry : String × Int}
    (other : entry.1 ≠ callerName) : (symbolCategoryRow symbol entry).EndsWithin snapshot 2 := by
  intro rows opened child member
  rcases cases_of_categoryRows opened member with leaf | ⟨_, _, focus, group, _, made⟩
  · exact leaf.endsWithin snapshot 1
  · intro leaves groupOpened leaf leafMember
    rw [fileGroupRow_children made] at groupOpened
    exact (isLeaf_of_fileGroupRows other groupOpened leaf leafMember).endsWithin snapshot 0

end Row

/-- If the chains of callers of a symbol are bounded, so are the levels below its top rows. -/
theorem endsWithin_of_symbolRows {snapshot : Snapshot} {symbol : Symbol} {bound : Nat}
    {rows : List Row} (shown : focusRows snapshot (.symbol symbol) = .ok rows)
    (bounded : ∀ known id, snapshot.categories symbol.id = .ok known -> (callerName, id) ∈ known ->
      snapshot.CallerChainsAtMost id bound symbol.id) :
    ∀ row ∈ rows, row.EndsWithin snapshot (3 * bound + 2) := by
  rcases symbolRows_eq_ok_iff.mp shown with ⟨properties, known, _, listed, rfl⟩
  intro row member
  rcases List.mem_append.mp member with first | second
  · rcases List.mem_map.mp first with ⟨property, _, rfl⟩
    have shut : (propertyRow symbol property).EndsWithin snapshot 0 := rfl
    exact shut.mono (Nat.zero_le _)
  · rcases List.mem_map.mp second with ⟨⟨name, id⟩, belongs, rfl⟩
    by_cases named : name = callerName
    · subst named
      have asks := Row.asksFor_symbolCategoryRow symbol id
      exact (asks.endsWithin_of_chains (bounded known id listed belongs)).mono (by omega)
    · exact (Row.endsWithin_of_ne_caller snapshot symbol named).mono (by omega)

/-! ## Printing a tree that ends -/

/-- More levels than there are below the rows change nothing. -/
theorem reports_of_endsWithin {snapshot : Snapshot} {levels remaining : Nat} {rows : List Row}
    (ends : ∀ row ∈ rows, row.EndsWithin snapshot levels) (enough : levels ≤ remaining)
    (level : Nat) :
    reports snapshot remaining level rows = reports snapshot levels level rows := by
  induction levels generalizing remaining level rows with
  | zero =>
      rw [reports_eq_flatMap, reports_eq_flatMap snapshot 0]
      apply List.flatMap_congr
      intro row member
      rw [reports_of_shut (ends row member), reports_of_shut (ends row member)]
  | succ levels inductionHypothesis =>
      obtain ⟨less, rfl⟩ : ∃ less, remaining = less + 1 := ⟨remaining - 1, by omega⟩
      rw [reports_eq_flatMap, reports_eq_flatMap snapshot (levels + 1)]
      apply List.flatMap_congr
      intro row member
      cases expandable : row.expandable with
      | false => rw [reports_of_shut expandable, reports_of_shut expandable]
      | true =>
          rw [reports_of_expandable expandable, reports_of_expandable expandable]
          cases opened : row.children snapshot with
          | error fault => rfl
          | ok children =>
              simp only
              rw [inductionHypothesis (ends row member children opened) (by omega)]

/-- A tree that ends above the depth has no closed rows: a closed row lies on the last level, and
there is none when the tree is printed one level deeper. -/
theorem not_closed_of_endsWithin {snapshot : Snapshot} {levels remaining : Nat}
    {rows : List Row} (ends : ∀ row ∈ rows, row.EndsWithin snapshot levels)
    (enough : levels ≤ remaining) (place : Nat) (row : Row) :
    .line (.row place .closed row) ∉ reports snapshot remaining 0 rows := by
  intro listed
  have deeper := listed
  rw [reports_of_endsWithin ends enough,
    ← reports_of_endsWithin ends (Nat.le_succ_of_le enough)] at deeper
  rcases exists_visited_of_line listed with ⟨here, _, samePlace, last⟩
  rcases exists_visited_of_line deeper with ⟨there, _, otherPlace, otherLast⟩
  have fewer := last rfl
  have more := otherLast rfl
  omega

/-- If all chains of callers of a symbol have at most a certain length, then three levels for each
caller and three more print the whole tree: at no greater depth is anything else printed, and no
line shows a closed row. -/
theorem acyclic_callers_are_printed_completely {snapshot : Snapshot} {symbol : Symbol}
    {bound : Nat} {rows : List Row} {depth : Int}
    (shown : focusRows snapshot (.symbol symbol) = .ok rows)
    (bounded : ∀ known id, snapshot.categories symbol.id = .ok known -> (callerName, id) ∈ known ->
      snapshot.CallerChainsAtMost id bound symbol.id)
    (deep : 3 * bound + 3 ≤ depth) (theme : Theme) (style : Option Style) :
    treeLines snapshot theme style depth rows =
        treeLines snapshot theme style (3 * bound + 3) rows ∧
      ∀ lines, treeLines snapshot theme style depth rows = .ok lines ->
        ∃ entries, entries = (treeReports snapshot depth rows).filterMap Report.line? ∧
          entries.mapM (lineText theme style) = .ok lines ∧
          ∀ level row, .row level .closed row ∉ entries := by
  have ends := endsWithin_of_symbolRows shown bounded
  have enough : 3 * bound + 2 ≤ (depth - 1).toNat := by omega
  have exactly : (3 * (bound : Int) + 3 - 1).toNat = 3 * bound + 2 := by omega
  constructor
  · unfold treeLines treeReports
    rw [reports_of_endsWithin ends enough, exactly]
  · intro lines printed
    refine ⟨_, rfl, mapM_lineText_of_reportLines printed, ?_⟩
    intro level row listed
    exact not_closed_of_endsWithin ends enough level row (Report.mem_filterMap_line?.mp listed)

namespace EndingCallers

def payload (id file : String) : Value :=
  .object [("id", .text id), ("range", .object [("file", .text file)])]

/-- The symbol `s` is called by `a`, which is called by `b`, and by `c`, which has no record.  The
record of `b` does not list callers, so asking for them fails. -/
def snapshot : Snapshot where
  members := [
    ("files", .object [("f", .object []), ("g", .object [])]),
    ("symbols", .object [
      ("s", .object [
        ("properties", .object [("Kind", .text "function")]),
        ("reference_types", .object [(callerName, .int 0), (usageName, .int 1)]),
        ("references", .object [("0", .list [payload "a" "f", payload "c" "f"]),
          ("1", .list [payload "u" "g"])])]),
      ("a", .object [
        ("reference_types", .object [(callerName, .int 0), (callsName, .int 4)]),
        ("references", .object [("0", .list [payload "b" "g"]),
          ("4", .list [payload "s" "f"])])]),
      ("b", .object [])])]

def symbol : Symbol where
  id := "s"
  range := none
  displayValue := "s"
  tags := []
  nameHash := 0

/-- The whole tree. -/
def printed : List String :=
  ["  Kind: function", "▾ Caller", "  ▾ f (2)", "    ▾ 0:0: ", "      ▾ Caller", "        ▾ g (1)",
    "          ▾ 0:0: ", "            ▾ Caller",
    "                error: unknown category id 0 for symbol b", "        0:0: ", "    ▾ 0:0: ",
    "        error: unknown symbol id: c", "▾ Usage", "  ▾ g (1)", "      0:0: "]

theorem chains_at_most_two {known : List (String × Int)} {id : Int}
    (listed : snapshot.categories symbol.id = .ok known) (member : (callerName, id) ∈ known) :
    snapshot.CallerChainsAtMost id 2 symbol.id := by
  have table : snapshot.categories symbol.id = .ok [(callerName, 0), (usageName, 1)] := rfl
  have only : id = 0 := by
    rw [table] at listed
    cases listed
    simpa [callerName, usageName] using member
  subst only
  decide +kernel

/-- Chains of two callers need no more than nine levels, and here seven are too few: the last row of
callers is then closed, and it does not show that it cannot be opened. -/
theorem ending_callers_are_printed_completely :
    ∃ rows, focusRows snapshot (.symbol symbol) = .ok rows ∧
      (∀ known id, snapshot.categories symbol.id = .ok known -> (callerName, id) ∈ known ->
        snapshot.CallerChainsAtMost id 2 symbol.id) ∧
      ¬snapshot.CallerChainsAtMost 0 1 symbol.id ∧ (3 * (2 : Nat) + 3 : Int) ≤ 12 ∧
      treeLines snapshot .plain none 9 rows = .ok printed ∧
      treeLines snapshot .plain none 7 rows ≠ .ok printed ∧
      treeLines snapshot .plain none 12 rows = treeLines snapshot .plain none 9 rows ∧
      ∃ entries, entries = (treeReports snapshot 12 rows).filterMap Report.line? ∧
        entries.mapM (lineText .plain none) = .ok printed ∧
        ∀ level row, .row level .closed row ∉ entries := by
  have shown : ∃ rows, focusRows snapshot (.symbol symbol) = .ok rows ∧
      treeLines snapshot .plain none 9 rows = .ok printed ∧
      (treeLines snapshot .plain none 7 rows).toOption.getD [] ≠ printed :=
    ⟨_, rfl, rfl, by decide +kernel⟩
  rcases shown with ⟨rows, tops, nine, seven⟩
  rcases acyclic_callers_are_printed_completely tops (fun _ _ => chains_at_most_two)
    (by decide : (3 * (2 : Nat) + 3 : Int) ≤ 12) .plain none with ⟨same, complete⟩
  refine ⟨rows, tops, fun _ _ => chains_at_most_two, by decide +kernel, by decide, nine, ?_, same,
    complete printed (same.trans nine)⟩
  intro equal
  rw [equal] at seven
  exact seven rfl

end EndingCallers

end RefTree
