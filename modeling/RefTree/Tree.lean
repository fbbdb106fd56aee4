import RefTree.Row.Build

namespace RefTree

/-!
# Unfolded trees

Opening rows level by level gives a tree.  A row of the tree is either left closed, because it
cannot be opened or the depth is used up, or opened with the trees of its children, or failed with
the fault that opening it met.  Faults outside the tree family do not become part of the tree:
they make the whole unfolding fail.
-/

/-- A tree of rows, unfolded to some depth. -/
inductive Tree where
  | closed (row : Row)
  | opened (row : Row) (children : List Tree)
  | failed (row : Row) (fault : Fault)

namespace Tree

def row : Tree -> Row
  | .closed row => row
  | .opened row _ => row
  | .failed row _ => row

def unfold (snapshot : Snapshot) : (levels : Nat) -> Row -> Except Fault Tree
  | 0, row => .ok (.closed row)
  | levels + 1, row =>
      if row.expandable then
        match row.children snapshot with
        | .ok rows => do return .opened row (<- rows.mapM (unfold snapshot levels))
        | .error fault =>
            if fault.isTreeFault then .ok (.failed row fault) else .error fault
      else .ok (.closed row)

/-- Unfold rows to a depth, where depth one shows the rows themselves. -/
def unfoldRows (snapshot : Snapshot) (depth : Int) (rows : List Row) :
    Except Fault (List Tree) :=
  rows.mapM (unfold snapshot (depth - 1).toNat)

end Tree
end RefTree
