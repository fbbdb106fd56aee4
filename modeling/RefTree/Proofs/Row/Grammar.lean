import Mathlib.Logic.Relation
import RefTree.Proofs.Row.Built
import RefTree.Session

namespace RefTree

/-!
# The grammar of a tree

What can stand below a row depends only on the kind of the row and on the name of its category,
and not on the snapshot.  A tree is therefore well formed however a host browses it: rows may be
opened in any order and any number of times, and the snapshot may be replaced between any two
steps.  The rows of a group need no snapshot at all, since only located references are grouped.

The invariant of a run is that every row given out so far is one that the library builds.  The
grammar itself is then a property of single rows.
-/

/-! ## The grammar -/

namespace Row

/-- Whenever the row is opened, all its children have a property. -/
def YieldsOnly (row : Row) (shape : Row -> Prop) : Prop :=
  ∀ now below, row.children now = .ok below -> ∀ child ∈ below, shape child

/-- A row that stands for a group of a given category. -/
def IsGroupIn (category : Category) (row : Row) : Prop :=
  row.kind = .fileGroup ∧ row.category? = some category

/-- What the grammar says about the row of a category of symbols or of files. -/
def ObeysCategoryRule (row : Row) : Prop :=
  (∃ symbol category, row.source = .category (.symbol symbol) category ∧
    row.label = category.label ∧
    (category.name = callerName ∨ category.name = usageName ->
      row.YieldsOnly (IsGroupIn category)) ∧
    (category.name ≠ callerName ∧ category.name ≠ usageName ->
      row.YieldsOnly fun child => child.kind = .reference)) ∨
  ∃ file category, row.source = .fileCategory (.file file) category ∧
    row.label = category.label ∧ row.YieldsOnly fun child => child.kind = .reference

/-- What the grammar says about the row of a group: it always opens, and never to nothing. -/
def ObeysGroupRule (row : Row) : Prop :=
  ∃ symbol category id members, row.source = .fileGroup (.symbol symbol) category id members ∧
    (category.name = callerName ∨ category.name = usageName) ∧
    ∀ now, ∃ below, row.children now = .ok below ∧ below ≠ [] ∧
      (category.name = callerName -> ∀ child ∈ below, child.kind = .caller) ∧
      (category.name = usageName -> ∀ child ∈ below, child.kind = .reference)

/-- What the grammar says about the row of a caller. -/
def ObeysCallerRule (row : Row) : Prop :=
  (∃ symbol category caller, row.source = .calls (.symbol symbol) category caller ∧
    category.name = callerName) ∧
  ∀ now below, row.children now = .ok below ->
    ∃ again sites, below = again :: sites ∧ again.kind = .recursive ∧
      ∀ site ∈ sites, site.kind = .reference

/-- What the grammar says about a row that repeats the category of callers. -/
def ObeysRecursiveRule (row : Row) : Prop :=
  ∃ symbol category, row.source = .category (.symbol symbol) category ∧
    category.name = callerName ∧ row.YieldsOnly (IsGroupIn category)

/-- The grammar of a tree.  A row of any other kind obeys no rule. -/
def ObeysGrammar (row : Row) : Prop :=
  match row.kind with
  | .property => row.expandable = false ∧ ∀ now, row.children now = .ok []
  | .reference => row.expandable = false ∧ ∀ now, row.children now = .ok []
  | .category => row.expandable = true ∧ row.ObeysCategoryRule
  | .fileGroup => row.expandable = true ∧ row.ObeysGroupRule
  | .caller => row.expandable = true ∧ row.ObeysCallerRule
  | .recursive => row.expandable = true ∧ row.ObeysRecursiveRule
  | .custom _ => False

end Row

/-- The top rows of a symbol are properties and then categories of that symbol; those of a file are
categories of that file. -/
def IsTopOf : Focus -> List Row -> Prop
  | .symbol symbol, tops =>
      ∃ properties categories, tops = properties ++ categories ∧
        (∀ row ∈ properties, row.kind = .property) ∧
        ∀ row ∈ categories, row.kind = .category ∧
          ∃ category, row.source = .category (.symbol symbol) category
  | .file file, tops =>
      ∀ row ∈ tops, row.kind = .category ∧
        ∃ category, row.source = .fileCategory (.file file) category
  | .other _, _ => False

/-! ## Every built row obeys the grammar -/

namespace Row

theorem IsFileGroupOf.isGroupIn {entry : String × Int} {row : Row}
    (shape : row.IsFileGroupOf entry) : row.IsGroupIn (.ofEntry entry) := by
  refine ⟨?_, shape.category?⟩
  rcases shape with ⟨_, _, _, _, _, made⟩
  exact fileGroupRow_kind made

theorem IsCallerOf.kind {entry : String × Int} {row : Row} (shape : row.IsCallerOf entry) :
    row.kind = .caller := by
  rcases shape with ⟨_, _, _, made⟩
  exact callerRow_kind made

theorem symbolCategoryRow_obeys (symbol : Symbol) (entry : String × Int) :
    (symbolCategoryRow symbol entry).ObeysCategoryRule := by
  refine Or.inl ⟨symbol, .ofEntry entry, rfl, rfl, ?_, ?_⟩
  · intro named now below opened child member
    have grouped := (Category.isGrouped_iff (.ofEntry entry)).mpr named
    exact (isFileGroupOf_of_categoryRows grouped opened child member).isGroupIn
  · intro named now below opened child member
    have flat : (Category.ofEntry entry).isGrouped = false := by
      apply Bool.eq_false_iff.mpr
      intro grouped
      rcases (Category.isGrouped_iff _).mp grouped with caller | usage
      · exact named.1 caller
      · exact named.2 usage
    exact (isLeaf_of_categoryRows flat opened child member).shape.1

theorem fileCategoryRow_obeys (file : FileHandle) (entry : String × Int) :
    (fileCategoryRow file entry).ObeysCategoryRule := by
  refine Or.inr ⟨file, .ofEntry entry, rfl, rfl, ?_⟩
  intro now below opened child member
  exact (isLeaf_of_fileCategoryRows opened child member).shape.1

/-- The rows of a filled group are as many as its members. -/
theorem ne_nil_of_fileGroupRows {focus : Focus} {category : Category} {id : String}
    {members : List Reference} {rows : List Row} (nonempty : members ≠ [])
    (opened : fileGroupRows focus category id members = .ok rows) : rows ≠ [] := by
  intro empty
  subst empty
  unfold fileGroupRows at opened
  split at opened
  · exact nonempty (List.forall₂_nil_right_iff.mp (Outcome.mapM_eq_ok_iff.mp opened))
  · exact nonempty (List.forall₂_nil_right_iff.mp (Outcome.mapM_eq_ok_iff.mp opened))

theorem IsFileGroupOf.obeys {entry : String × Int} {row : Row}
    (shape : row.IsFileGroupOf entry) : row.expandable = true ∧ row.ObeysGroupRule := by
  rcases shape with ⟨grouped, _, symbol, group, filled, made⟩
  rcases fileGroupRow_eq_ok_iff.mp made with ⟨_, _, rfl⟩
  refine ⟨rfl, symbol, .ofEntry entry, _, group.members, rfl,
    (Category.isGrouped_iff _).mp grouped, ?_⟩
  intro now
  rcases exists_fileGroupRows filled.isLocated (.symbol symbol) (.ofEntry entry)
    (symbol.id ++ "-" ++ (Category.ofEntry entry).id.plain ++ "-" ++ group.file) with
      ⟨below, opened⟩
  refine ⟨below, opened, ne_nil_of_fileGroupRows filled.1 opened, ?_, ?_⟩
  · intro named child member
    exact (isCallerOf_of_fileGroupRows named opened child member).kind
  · intro named child member
    have other : entry.1 ≠ callerName := by
      intro caller
      exact absurd (caller.symm.trans named) (by decide)
    exact (isLeaf_of_fileGroupRows other opened child member).shape.1

theorem IsCallerOf.obeys {entry : String × Int} {row : Row} (shape : row.IsCallerOf entry) :
    row.expandable = true ∧ row.ObeysCallerRule := by
  rcases shape with ⟨named, symbol, caller, made⟩
  rcases callerRow_eq_ok_iff.mp made with ⟨_, _, rfl⟩
  refine ⟨rfl, ⟨symbol, .ofEntry entry, caller, rfl, named⟩, ?_⟩
  intro now below opened
  rcases callChainRows_eq_ok_iff.mp opened with ⟨sites, found, rfl⟩
  refine ⟨_, sites, rfl, rfl, ?_⟩
  intro site member
  exact (isLeaf_of_callSiteRows found site member).shape.1

theorem recursiveRow_obeys {entry : String × Int} (named : entry.1 = callerName)
    (caller : Reference) : (recursiveRow (.ofEntry entry) caller).ObeysRecursiveRule := by
  refine ⟨.ofReference caller, .ofEntry entry, rfl, named, ?_⟩
  intro now below opened child member
  have grouped := (Category.isGrouped_iff (.ofEntry entry)).mpr (Or.inl named)
  exact (isFileGroupOf_of_categoryRows grouped opened child member).isGroupIn

theorem IsBuilt.obeysGrammar {row : Row} (built : row.IsBuilt) : row.ObeysGrammar := by
  cases built with
  | property symbol property => exact ⟨rfl, fun now => rfl⟩
  | category symbol entry => exact ⟨rfl, symbolCategoryRow_obeys symbol entry⟩
  | fileCategory file entry => exact ⟨rfl, fileCategoryRow_obeys file entry⟩
  | fileGroup shape =>
      unfold ObeysGrammar
      rw [shape.isGroupIn.1]
      exact shape.obeys
  | caller shape =>
      unfold ObeysGrammar
      rw [shape.kind]
      exact shape.obeys
  | recursive shape =>
      rcases shape with ⟨named, caller, rfl⟩
      exact ⟨rfl, recursiveRow_obeys named caller⟩
  | leaf shape =>
      unfold ObeysGrammar
      rw [shape.shape.1]
      exact ⟨shape.shape.2.1, children_of_not_expandable shape.shape.2.1⟩

end Row

theorem isTopOf_of_focusRows {snapshot : Snapshot} {focus : Focus} {tops : List Row}
    (shown : focusRows snapshot focus = .ok tops) : IsTopOf focus tops := by
  cases focus with
  | symbol symbol =>
      rcases symbolRows_eq_ok_iff.mp shown with ⟨properties, categories, _, _, rfl⟩
      refine ⟨_, _, rfl, ?_, ?_⟩
      · intro row member
        rcases List.mem_map.mp member with ⟨property, _, rfl⟩
        rfl
      · intro row member
        rcases List.mem_map.mp member with ⟨entry, _, rfl⟩
        exact ⟨rfl, _, rfl⟩
  | file file =>
      rcases fileRows_eq_ok_iff.mp shown with ⟨categories, _, rfl⟩
      intro row member
      rcases List.mem_map.mp member with ⟨entry, _, rfl⟩
      exact ⟨rfl, _, rfl⟩
  | other value => cases shown

/-! ## Browsing -/

/-- One step of browsing.  A row that was given out before is opened and its children are kept, or
the snapshot is replaced by any other one. -/
inductive Browse : Session -> Session -> Prop
  | expand {session : Session} {row : Row} {below : List Row} (given : row ∈ session.rows)
      (opened : row.children session.snapshot = .ok below) :
      Browse session { session with rows := session.rows ++ below }
  | change (session : Session) (snapshot : Snapshot) : Browse session { session with snapshot }

/-- A step of browsing gives out no rows but those that the library builds. -/
theorem Browse.isBuilt {before after : Session} (step : Browse before after)
    (built : ∀ row ∈ before.rows, row.IsBuilt) : ∀ row ∈ after.rows, row.IsBuilt := by
  cases step with
  | expand given opened =>
      intro child member
      rcases List.mem_append.mp member with old | new
      · exact built child old
      · exact ((built _ given).follows_children opened child new).1
  | change => exact built

theorem isBuilt_of_browsing {start session : Session}
    (run : Relation.ReflTransGen Browse start session)
    (built : ∀ row ∈ start.rows, row.IsBuilt) : ∀ row ∈ session.rows, row.IsBuilt := by
  induction run with
  | refl => exact built
  | tail _ step inductionHypothesis => exact step.isBuilt inductionHypothesis

/-- The actions that neither open a tree nor register a provider. -/
def Action.IsBrowsing : Action -> Prop
  | .opening _ | .registerTree _ | .registerRows _ _ => False
  | _ => True

namespace Session

theorem change_browses (session : Session) (edit : Document.Value -> Document.Value) :
    Relation.ReflTransGen Browse session (session.change edit) := by
  unfold change
  split
  · exact Relation.ReflTransGen.single (.change session _)
  · exact Relation.ReflTransGen.refl

theorem perform_browses (session : Session) {action : Action} (browsing : action.IsBrowsing) :
    Relation.ReflTransGen Browse session (session.perform action).1 := by
  cases action with
  | opening opening => exact False.elim browsing
  | registerTree name => exact False.elim browsing
  | registerRows name numbers => exact False.elim browsing
  | expand number =>
      unfold perform
      simp only
      split
      · rename_i row given
        cases opened : row.children session.snapshot with
        | ok below =>
            exact Relation.ReflTransGen.single
              (.expand (List.mem_of_getElem? given) opened)
        | error fault => exact Relation.ReflTransGen.refl
      · exact Relation.ReflTransGen.refl
  | rowText number theme style =>
      unfold perform
      simp only
      split
      · exact Relation.ReflTransGen.refl
      · exact Relation.ReflTransGen.refl
  | set path value => exact session.change_browses _
  | erase path => exact session.change_browses _
  | _ => exact Relation.ReflTransGen.refl

/-- Whatever a host does without opening another tree is a run of browsing steps. -/
theorem run_browses (session : Session) {actions : List Action}
    (browsing : ∀ action ∈ actions, action.IsBrowsing) :
    Relation.ReflTransGen Browse session (session.run actions).1 := by
  induction actions generalizing session with
  | nil => exact Relation.ReflTransGen.refl
  | cons action rest inductionHypothesis =>
      have first := session.perform_browses (browsing action List.mem_cons_self)
      have later := inductionHypothesis (session.perform action).1
        (fun other member => browsing other (List.mem_cons_of_mem _ member))
      exact first.trans later

end Session

/-! ## The grammar of everything that is ever shown -/

/-- However a tree is browsed and however the snapshot changes meanwhile, its top rows are of the
expected kinds and every row given out obeys the grammar. -/
theorem grammar_of_browsing {snapshot : Snapshot} {focus : Focus} {tops : List Row}
    {session : Session} (shown : focusRows snapshot focus = .ok tops)
    (run : Relation.ReflTransGen Browse { snapshot, rows := tops } session) :
    IsTopOf focus tops ∧ ∀ row ∈ session.rows, row.ObeysGrammar := by
  refine ⟨isTopOf_of_focusRows shown, ?_⟩
  intro row member
  have built := isBuilt_of_browsing run (isBuilt_of_focusRows shown)
  exact (built row member).obeysGrammar

namespace LostSymbols

open Document

/-- The function `s` is called by itself, once. -/
def snapshot : Snapshot where
  members := [
    ("files", .object [("f", .object [])]),
    ("symbols", .object [("s", .object [
      ("properties", .object [("Kind", .text "function")]),
      ("reference_types", .object [(callerName, .int 0), (callsName, .int 1)]),
      ("references", .object [("0", call), ("1", call)])])])]
where
  call := .list [.object [("id", .text "s"), ("range", .object [("file", .text "f")])]]

/-- The function, as a host names it. -/
def symbol : Symbol where
  id := "s"
  range := none
  displayValue := "s"
  tags := []
  nameHash := 0

/-- The callers are opened down to the second level.  Then all symbols are lost: the group of the
second level can still be opened, and the caller in it no longer. -/
def actions : List Action :=
  [.expand 1, .expand 3, .expand 4, .expand 5, .erase [.member "symbols"], .expand 7, .expand 8]

/-- The grammar holds for a run in which the snapshot loses what it was browsed for. -/
theorem grammar_of_lost_symbols :
    ∃ tops session, focusRows snapshot (.symbol symbol) = .ok tops ∧
      (Session.run { snapshot, rows := tops } actions).1 = session ∧
      session.rows.map Row.kind =
        [.property, .category, .category, .fileGroup, .caller, .recursive, .reference,
          .fileGroup, .caller] ∧
      IsTopOf (.symbol symbol) tops ∧ ∀ row ∈ session.rows, row.ObeysGrammar := by
  refine ⟨_, _, rfl, rfl, rfl, ?_⟩
  apply @grammar_of_browsing snapshot _ _ _ rfl
  apply Session.run_browses
  intro action member
  simp only [actions, List.mem_cons, List.not_mem_nil, or_false] at member
  rcases member with rfl | rfl | rfl | rfl | rfl | rfl | rfl <;> trivial

end LostSymbols

end RefTree
