import RefTree.Proofs.Listing.Preorder

namespace RefTree

/-!
# One more level of depth

Two printings of the same rows are compared, one of them a level deeper.  Nothing that the shallower
one shows is moved or rewritten by the deeper one, except that the rows of its last level are now
open.  What is new are the rows of one more level and the faults of rows that were closed before.

The comparison is made on trees.  The shallower tree is the deeper one, cut so that the rows of its
last level are closed, and cutting a tree does to its listing what is claimed of the printed lines.
-/

/-- What becomes of a line of a listing that is a level deeper than a given depth.  A row at that
depth is left out, and so is the fault of a row just above it; an open row just above it is
closed. -/
def Line.shallower (depth : Int) : Line -> Option Line
  | .row level marker shown =>
      if level = depth then none
      else if level + 1 = depth ∧ marker = .opened then some (.row level .closed shown)
      else some (.row level marker shown)
  | .fault level cause => if level + 1 = depth then none else some (.fault level cause)

namespace Line

theorem shallower_last (depth : Int) {level : Nat} (last : level = depth) (marker : Marker)
    (shown : Row) : shallower depth (.row level marker shown) = none := by
  simp only [shallower, last, if_true]

/-- A row above the depth stays, with the marker that it has at that depth. -/
theorem shallower_row {depth : Int} {level : Nat} (above : level < depth) (shown : Row) :
    shallower depth (.row level (markerAt (depth + 1) level shown) shown) =
      some (.row level (markerAt depth level shown) shown) := by
  have notLast : ¬(level : Int) = depth := by omega
  have deeper : (level : Int) + 1 < depth + 1 := by omega
  simp only [shallower, markerAt, notLast, deeper, if_false, if_true]
  cases shown.expandable with
  | false => simp
  | true =>
      by_cases next : (level : Int) + 1 = depth
      · simp [next]
      · have within : (level : Int) + 1 < depth := by omega
        simp [next, within]

end Line

/-! ## Cutting a tree -/

namespace Tree

mutual

/-- Close the rows of a tree whose children do not lie above a depth. -/
def cut (depth : Int) (level : Nat) : Tree -> Tree
  | .closed row => .closed row
  | .opened row children =>
      if level + 1 < depth then .opened row (cutAll depth (level + 1) children) else .closed row
  | .failed row fault => if level + 1 < depth then .failed row fault else .closed row

def cutAll (depth : Int) (level : Nat) : List Tree -> List Tree
  | [] => []
  | tree :: rest => tree.cut depth level :: cutAll depth level rest

end

theorem cutAll_eq_map (depth : Int) (level : Nat) (trees : List Tree) :
    cutAll depth level trees = trees.map (cut depth level) := by
  induction trees with
  | nil => rfl
  | cons tree rest inductionHypothesis => rw [cutAll, inductionHypothesis, List.map_cons]

theorem row_cut (depth : Int) (level : Nat) (tree : Tree) :
    (tree.cut depth level).row = tree.row := by
  cases tree with
  | closed row => rfl
  | opened row children =>
      by_cases within : level + 1 < depth
      · rw [cut, if_pos within, Tree.row, Tree.row]
      · rw [cut, if_neg within, Tree.row, Tree.row]
  | failed row fault =>
      by_cases within : level + 1 < depth
      · rw [cut, if_pos within]
      · rw [cut, if_neg within, Tree.row, Tree.row]

/-- Cutting the tree of one depth gives the tree of a smaller one. -/
theorem isUnfolding_cut {snapshot : Snapshot} {deeper depth : Int} {level : Nat} {tree : Tree}
    (unfolding : tree.IsUnfolding snapshot deeper level) (smaller : depth ≤ deeper) :
    (tree.cut depth level).IsUnfolding snapshot depth level := by
  induction unfolding with
  | leaf shut => exact .leaf shut
  | bounded beyond => exact .bounded (by omega)
  | @opened level row trees expandable _ children below inductionHypothesis =>
      by_cases within : level + 1 < depth
      · rw [cut, if_pos within, cutAll_eq_map]
        apply IsUnfolding.opened expandable within
        · rw [children, List.map_map]
          exact congrArg Except.ok (List.map_congr_left fun tree _ => (row_cut _ _ tree).symm)
        · intro tree member
          rcases List.mem_map.mp member with ⟨deep, belongs, rfl⟩
          exact inductionHypothesis deep belongs
      · rw [cut, if_neg within]
        exact .bounded (by omega)
  | @failed level row fault expandable _ children shown =>
      by_cases within : level + 1 < depth
      · rw [cut, if_pos within]
        exact .failed expandable within children shown
      · rw [cut, if_neg within]
        exact .bounded (by omega)

/-! ## Cutting a tree cuts its listing -/

/-- Nothing is left of the rows of the last level. -/
theorem IsUnfolding.filterMap_listing_last {snapshot : Snapshot} {depth : Int} {level : Nat}
    {tree : Tree} (unfolding : tree.IsUnfolding snapshot (depth + 1) level)
    (last : level = depth) :
    (tree.listing (depth + 1) level).filterMap (Line.shallower depth) = [] := by
  cases unfolding with
  | leaf shut => simp [listing, Line.shallower_last depth last]
  | bounded beyond => simp [listing, Line.shallower_last depth last]
  | opened _ within _ _ => omega
  | failed _ within _ _ => omega

theorem IsUnfolding.listing_cut {snapshot : Snapshot} {depth : Int} {level : Nat} {tree : Tree}
    (unfolding : tree.IsUnfolding snapshot (depth + 1) level) (above : level < depth) :
    (tree.cut depth level).listing depth level =
      (tree.listing (depth + 1) level).filterMap (Line.shallower depth) := by
  induction unfolding with
  | leaf shut => simp [cut, listing, Line.shallower_row above]
  | bounded beyond => simp [cut, listing, Line.shallower_row above]
  | @opened level row trees expandable _ children below inductionHypothesis =>
      rw [listing, List.filterMap_cons_some (Line.shallower_row above row), listingAll_eq_flatMap,
        List.filterMap_flatMap]
      by_cases within : level + 1 < depth
      · have sameBelow : ∀ tree ∈ trees,
            (tree.cut depth (level + 1)).listing depth (level + 1) =
              (tree.listing (depth + 1) (level + 1)).filterMap (Line.shallower depth) :=
          fun tree member => inductionHypothesis tree member (by omega)
        rw [cut, if_pos within, listing, cutAll_eq_map, listingAll_eq_flatMap, List.flatMap_map]
        exact congrArg _ (List.flatMap_congr sameBelow)
      · -- The children are the rows of the last level, so all their lines are left out.
        have noneBelow : ∀ tree ∈ trees,
            (tree.listing (depth + 1) (level + 1)).filterMap (Line.shallower depth) = [] :=
          fun tree member => (below tree member).filterMap_listing_last (by omega)
        rw [cut, if_neg within, listing, List.flatMap_eq_nil_iff.mpr noneBelow]
  | @failed level row fault expandable _ children shown =>
      rw [listing, List.filterMap_cons_some (Line.shallower_row above row)]
      by_cases within : level + 1 < depth
      · have kept : Line.shallower depth (.fault level fault) = some (.fault level fault) :=
          if_neg (by omega)
        rw [cut, if_pos within, listing, List.filterMap_cons_some kept, List.filterMap_nil]
      · have dropped : Line.shallower depth (.fault level fault) = none := if_pos (by omega)
        rw [cut, if_neg within, listing, List.filterMap_cons_none dropped, List.filterMap_nil]

theorem listingAll_cutAll {snapshot : Snapshot} {depth : Int} {level : Nat} {trees : List Tree}
    (unfolding : ∀ tree ∈ trees, tree.IsUnfolding snapshot (depth + 1) level)
    (above : level < depth) :
    listingAll depth level (cutAll depth level trees) =
      (listingAll (depth + 1) level trees).filterMap (Line.shallower depth) := by
  rw [cutAll_eq_map, listingAll_eq_flatMap, listingAll_eq_flatMap, List.flatMap_map,
    List.filterMap_flatMap]
  exact List.flatMap_congr fun tree member => (unfolding tree member).listing_cut above

end Tree

theorem Unfolds.cut {snapshot : Snapshot} {deeper depth : Int} {rows : List Row}
    {trees : List Tree} (unfolds : Unfolds snapshot deeper rows trees) (smaller : depth ≤ deeper) :
    Unfolds snapshot depth rows (Tree.cutAll depth 0 trees) := by
  rw [Tree.cutAll_eq_map]
  constructor
  · rw [List.map_map, ← unfolds.1]
    exact List.map_congr_left fun tree _ => Tree.row_cut depth 0 tree
  · intro tree member
    rcases List.mem_map.mp member with ⟨deep, belongs, rfl⟩
    exact Tree.isUnfolding_cut (unfolds.2 deep belongs) smaller

/-! ## Printing one level less -/

/-- If rows can be printed to one more level, they can be printed to a depth.  The lines are then
those of the deeper listing without the rows of its last level and without the faults met just above
it, with the rows above it closed, and with nothing else changed or moved. -/
theorem depth_only_adds_rows {snapshot : Snapshot} {theme : Theme} {depth : Int}
    {rows : List Row} {deep : List String} (positive : 1 ≤ depth)
    (printed : treeLines snapshot theme none (depth + 1) rows = .ok deep) :
    ∃ trees entries, Unfolds snapshot (depth + 1) rows trees ∧
      entries = Tree.listingAll (depth + 1) 0 trees ∧ deep = entries.map (Line.text theme) ∧
      treeLines snapshot theme none depth rows =
        .ok ((entries.filterMap (Line.shallower depth)).map (Line.text theme)) := by
  rw [treeLines_eq, Outcome.map_eq_ok_iff] at printed
  rcases printed with ⟨trees, unfolded, listed⟩
  have unfolds := unfoldRows_eq_ok_iff.mp unfolded
  refine ⟨trees, _, unfolds, rfl, listed, ?_⟩
  have shallow := unfoldRows_eq_ok_iff.mpr (unfolds.cut (by omega : depth ≤ depth + 1))
  rw [treeLines_eq, shallow, ← Tree.listingAll_cutAll unfolds.2 (by omega)]
  rfl

namespace BrokenTree

/-- One level less closes the callers, which hides the failure of the first and the row below the
second.  The failure of the uses is still shown. -/
theorem depth_only_adds_rows_to_broken_tree :
    ∃ callers uses overrides trees entries,
      focusRows snapshot (.symbol symbol) = .ok [callers, uses, overrides] ∧
      (1 : Int) ≤ 3 ∧ treeLines snapshot .plain none (3 + 1) [callers, uses] = .ok printed ∧
      Unfolds snapshot (3 + 1) [callers, uses] trees ∧
      entries = Tree.listingAll (3 + 1) 0 trees ∧ printed = entries.map (Line.text .plain) ∧
      treeLines snapshot .plain none 3 [callers, uses] =
        .ok ((entries.filterMap (Line.shallower 3)).map (Line.text .plain)) ∧
      treeLines snapshot .plain none 3 [callers, uses] =
        .ok ["▾ Caller", "  ▾ f (2)", "    ▸ 7:0: ", "    ▸ 8:0: ", "▾ Usage",
          "    error: references of category 1 for symbol s are not a list"] := by
  have shown : ∃ callers uses overrides,
      focusRows snapshot (.symbol symbol) = .ok [callers, uses, overrides] ∧
      treeLines snapshot .plain none (3 + 1) [callers, uses] = .ok printed ∧
      treeLines snapshot .plain none 3 [callers, uses] =
        .ok ["▾ Caller", "  ▾ f (2)", "    ▸ 7:0: ", "    ▸ 8:0: ", "▾ Usage",
          "    error: references of category 1 for symbol s are not a list"] :=
    ⟨_, _, _, rfl, rfl, rfl⟩
  rcases shown with ⟨callers, uses, overrides, tops, deep, shallow⟩
  rcases depth_only_adds_rows (by decide) deep with ⟨trees, entries, unfolds, listed, same, less⟩
  exact ⟨callers, uses, overrides, trees, entries, tops, by decide, deep, unfolds, listed, same,
    less, shallow⟩

end BrokenTree

end RefTree
