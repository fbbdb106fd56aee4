import RefTree.Proofs.Number.IntegerText
import RefTree.Proofs.Row.Built

namespace RefTree

open Document

/-!
# Ids of rows

The id of a group joins the id of the symbol, the id of the category and the id of the file with
hyphens.  Symbols and files may have hyphens in their ids, and a category may have a negative id.
For one symbol the join is still unambiguous.
-/

theorem plain_int (n : Int) : (Value.int n).plain = Number.integerText n := by
  simp only [Value.plain, Value.quoted]

/-- For one symbol, the joined id of a group determines its category and its file. -/
theorem groupId_inj {symbol firstFile secondFile : String} {first second : Int}
    (equal : symbol ++ "-" ++ (Value.int first).plain ++ "-" ++ firstFile =
      symbol ++ "-" ++ (Value.int second).plain ++ "-" ++ secondFile) :
    first = second ∧ firstFile = secondFile := by
  have lists := congrArg String.toList equal
  simp only [plain_int, String.toList_append, List.append_assoc] at lists
  have rests := List.append_cancel_left (List.append_cancel_left lists)
  have parts := Number.integerText_hyphen_inj rests
  exact ⟨parts.1, String.toList_inj.mp parts.2⟩

/-- Groups of one symbol with the same id belong to the same category and the same file, even if
they were made from different snapshots. -/
theorem fileGroupRow_id_inj {before after : Snapshot} {symbol : Symbol}
    {first second : String × Int} {left right : FileGroup} {leftRow rightRow : Row}
    (leftMade : fileGroupRow before (.symbol symbol) (.ofEntry first) left = .ok leftRow)
    (rightMade : fileGroupRow after (.symbol symbol) (.ofEntry second) right = .ok rightRow)
    (sameId : leftRow.id = rightRow.id) : first.2 = second.2 ∧ left.file = right.file := by
  rcases fileGroupRow_eq_ok_iff.mp leftMade with ⟨_, _, rfl⟩
  rcases fileGroupRow_eq_ok_iff.mp rightMade with ⟨_, _, rfl⟩
  exact groupId_inj (Option.some.inj sameId)

end RefTree
