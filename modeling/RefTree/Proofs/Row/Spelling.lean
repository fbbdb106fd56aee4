import RefTree.Listing
import RefTree.Proofs.Snapshot.Spelling
import RefTree.Session

namespace RefTree

open Document

/-!
# Trees of snapshots that are spelled differently

Rows are made from the answers to queries and from nothing else.  So two snapshots that answer every
query alike have the same trees, however deep these are opened, and snapshots that differ in the
spelling of payloads only are such.
-/

/-! ## Trees depend on answers only -/

namespace Snapshot.SameAnswers

variable {first second : Snapshot} (same : first.SameAnswers second)
include same

theorem answer_eq : Query.answer first = Query.answer second := by
  funext query
  cases query with
  | symbol id => rw [Query.answer, Query.answer, same.symbol]
  | file id => rw [Query.answer, Query.answer, same.file]
  | properties id => rw [Query.answer, Query.answer, same.properties]
  | categories id => rw [Query.answer, Query.answer, same.categories]
  | references id category => rw [Query.answer, Query.answer, same.references]
  | fileCategories id => rw [Query.answer, Query.answer, same.fileCategories]
  | fileReferences id category => rw [Query.answer, Query.answer, same.fileReferences]

theorem focusRows_eq : focusRows first = focusRows second := by
  funext focus
  cases focus with
  | symbol symbol =>
      rw [focusRows, focusRows, symbolRows, symbolRows, same.properties, same.categories]
  | file file => rw [focusRows, focusRows, fileRows, fileRows, same.fileCategories]
  | other value => rfl

theorem categoryRows_eq : categoryRows first = categoryRows second := by
  have groupRow : fileGroupRow first = fileGroupRow second := by
    funext focus category group
    rw [fileGroupRow, fileGroupRow, same.file]
  funext focus category
  rw [categoryRows, categoryRows, same.references, groupRow]

theorem callsOf_eq : callsOf first = callsOf second := by
  funext caller
  rw [callsOf, callsOf, same.categories, same.references]

theorem children_eq : Row.children first = Row.children second := by
  funext row
  rw [Row.children.eq_def, Row.children.eq_def]
  split
  · cases row.source with
    | category focus category => exact congrFun (congrFun same.categoryRows_eq focus) category
    | fileCategory focus category =>
        show fileCategoryRows first focus category = fileCategoryRows second focus category
        rw [fileCategoryRows, fileCategoryRows, same.fileReferences]
    | calls focus category caller =>
        show callChainRows first focus category caller = callChainRows second focus category caller
        rw [callChainRows, callChainRows, callSiteRows, callSiteRows, same.callsOf_eq]
    | none | fileGroup _ _ _ _ | rows _ | fault _ => rfl
  · rfl

theorem childrenNotes_eq : Row.childrenNotes first = Row.childrenNotes second := by
  funext row
  rw [Row.childrenNotes.eq_def, Row.childrenNotes.eq_def]
  split
  · cases row.source with
    | category focus category =>
        show (categoryNote first _ _).toOption.toList = (categoryNote second _ _).toOption.toList
        rw [categoryNote, categoryNote, same.references]
    | fileCategory focus category =>
        show (fileCategoryNote first _ _).toOption.toList =
          (fileCategoryNote second _ _).toOption.toList
        rw [fileCategoryNote, fileCategoryNote, same.fileReferences]
    | calls focus category caller =>
        show (callsNote first _ _).toOption.join.toList =
          (callsNote second _ _).toOption.join.toList
        rw [callsNote, callsNote, same.callsOf_eq]
    | none | fileGroup _ _ _ _ | rows _ | fault _ => rfl
  · rfl

/-- Rows unfold alike, however many levels below them are opened. -/
theorem unfold_eq (levels : Nat) : Tree.unfold first levels = Tree.unfold second levels := by
  induction levels with
  | zero => rfl
  | succ levels inductionHypothesis =>
      funext row
      rw [Tree.unfold, Tree.unfold, same.children_eq, inductionHypothesis]

/-- Rows are printed alike, however many levels below them are opened. -/
theorem reports_eq (remaining : Nat) : reports first remaining = reports second remaining := by
  induction remaining with
  | zero => rfl
  | succ remaining inductionHypothesis =>
      funext level rows
      rw [reports, reports, same.children_eq, same.childrenNotes_eq, inductionHypothesis]

end Snapshot.SameAnswers

/-! ## Spelling changes no tree -/

/-- Payloads that are spelled alike give the same reference or fail alike.  Snapshots that differ in
the spelling of payloads only answer every query alike; every focus has the same rows in both, and
rows are unfolded and printed alike at every depth. -/
theorem spelling_changes_no_tree :
    (∀ first second : Value, Reference.SpelledAlike first second ->
      Reference.decode first = Reference.decode second) ∧
    ∀ first second : Snapshot, first.DifferInSpelling second ->
      Query.answer first = Query.answer second ∧
      focusRows first = focusRows second ∧
      Row.children first = Row.children second ∧
      ∀ (depth : Int) (rows : List Row),
        Tree.unfoldRows first depth rows = Tree.unfoldRows second depth rows ∧
        ∀ (theme : Theme) (style : Option Style),
          treeLines first theme style depth rows = treeLines second theme style depth rows := by
  refine ⟨fun first second alike => alike.decode_eq, ?_⟩
  intro first second differ
  have same := differ.sameAnswers
  refine ⟨same.answer_eq, same.focusRows_eq, same.children_eq, ?_⟩
  intro depth rows
  constructor
  · rw [Tree.unfoldRows, Tree.unfoldRows, same.unfold_eq]
  · intro theme style
    rw [treeLines, treeLines, treeReports, treeReports, same.reports_eq]

namespace TwoSpellings

/-- The members of a payload, of which three parts are left open. -/
def payload (line nameHash : Value) (tags : List Value) : Members :=
  [("id", .int 7),
    ("range", .object [("file", .text "f"), ("startpos", .object [("line", line)])]),
    ("tags", .list tags),
    ("mangled_name_hash", nameHash)]

def numbered : Members :=
  payload (.int 9) (.int (-42)) [.text "static"]

/-- Numerals stand for the integers, a tag is repeated, and a note is added before everything is
reversed. -/
def spelled : Members :=
  (("note", .null) ::
    payload (.text "9") (.text "-42") [.text "static", .text "static"]).reverse

theorem spelledAlike : Reference.SpelledAlike (.object numbered) (.object spelled) := by
  have lineNumeral : AsNumeral (.int 9) (.text "9") := @AsNumeral.intro 9 (by decide)
  have hashNumeral : AsNumeral (.int (-42)) (.text "-42") := @AsNumeral.intro (-42) (by decide)
  have lineChanged : Reference.PayloadRespelled (.object numbered)
      (.object (payload (.text "9") (.int (-42)) [.text "static"])) :=
    .object (@Members.Respelled.changed _ Reference.PayloadChange [_] [_, _] "range" _ _
      (.object (@Members.Respelled.changed _ Reference.RangeChange [_] [] "startpos" _ _
        (.object (@Members.Respelled.changed _ _ [] [] "line" _ _ lineNumeral)))))
  have hashChanged : Reference.PayloadRespelled
      (.object (payload (.text "9") (.int (-42)) [.text "static"]))
      (.object (payload (.text "9") (.text "-42") [.text "static"])) :=
    .object (@Members.Respelled.changed _ Reference.PayloadChange [_, _, _] []
      "mangled_name_hash" _ _ hashNumeral)
  have tagRepeated : Reference.PayloadRespelled
      (.object (payload (.text "9") (.text "-42") [.text "static"]))
      (.object (payload (.text "9") (.text "-42") [.text "static", .text "static"])) :=
    .object (@Members.Respelled.changed _ Reference.PayloadChange [_, _] [_] "tags" _ _
      (.repeated List.mem_cons_self))
  have noteAdded : Reference.PayloadRespelled
      (.object (payload (.text "9") (.text "-42") [.text "static", .text "static"]))
      (.object spelled.reverse) :=
    .object (@Members.Respelled.added _ _ [] _ "note" .null (by decide))
  have reversed : Reference.PayloadRespelled (.object spelled) (.object spelled.reverse) :=
    .object (.reordered (by decide) (List.reverse_perm spelled).symm)
  exact .trans _ _ _ (.rel _ _ lineChanged) <| .trans _ _ _ (.rel _ _ hashChanged) <|
    .trans _ _ _ (.rel _ _ tagRepeated) <| .trans _ _ _ (.rel _ _ noteAdded) <|
    .symm _ _ (.rel _ _ reversed)

/-- A symbol with one caller. -/
def snapshot (caller : Members) : Snapshot where
  members := [
    ("files", .object [("f", .object [])]),
    ("symbols", .object [("s", .object [
      ("reference_types", .object [(callerName, .int 0)]),
      ("references", .object [("0", .list [.object caller])])])])]

theorem differInSpelling : (snapshot numbered).DifferInSpelling (snapshot spelled) := by
  have payloads : Snapshot.PayloadsChanged (.list [.object numbered]) (.list [.object spelled]) :=
    .list (.cons spelledAlike .nil)
  have stored : Snapshot.StoredChanged (.object [("0", .list [.object numbered])])
      (.object [("0", .list [.object spelled])]) :=
    .object (.cons ⟨rfl, Or.inr payloads⟩ .nil)
  -- Each level has the same names and is changed in its last member only.
  exact .object (.cons ⟨rfl, Or.inl rfl⟩ (.cons ⟨rfl, Or.inr (.object (.cons ⟨rfl, Or.inr (.object
    (.cons ⟨rfl, Or.inl rfl⟩ (.cons ⟨rfl, Or.inr stored⟩ .nil)))⟩ .nil))⟩ .nil))

def caller : Reference where
  id := "7"
  range := some ⟨"f", 9, 0⟩
  displayValue := ""
  tags := ["static"]
  nameHash := -42

/-- Both spellings give the same caller and the same tree. -/
theorem trees_of_two_spellings :
    Reference.decode (.object spelled) = .ok caller ∧
    Reference.decode (.object numbered) = .ok caller ∧
    (snapshot spelled).references "s" (.int 0) = .ok [caller] ∧
    (snapshot numbered).DifferInSpelling (snapshot spelled) ∧
    focusRows (snapshot numbered) = focusRows (snapshot spelled) ∧
    ∀ (depth : Int) (rows : List Row), Tree.unfoldRows (snapshot numbered) depth rows =
      Tree.unfoldRows (snapshot spelled) depth rows := by
  rcases spelling_changes_no_tree with ⟨payloads, snapshots⟩
  rcases snapshots _ _ differInSpelling with ⟨_, tops, _, trees⟩
  refine ⟨rfl, ?_, rfl, differInSpelling, tops, fun depth rows => (trees depth rows).1⟩
  rw [payloads _ _ spelledAlike]
  rfl

end TwoSpellings

end RefTree
