import RefTree.Proofs.Caller.Walks
import RefTree.Proofs.Row.Identity

namespace RefTree

open Document

/-!
# Rows that repeat the category of callers

If a caller can be opened, the first row below it repeats the category of callers, opened on the
caller itself.  It carries the id that the category has at the symbol where browsing began.  The
record of the caller may list the category too, and then its own top rows have a row for it.  Both
rows are opened by the same function on the same symbol, so they agree when the two records give the
category the same id.  When the ids differ the rows ask for different lists, and they agree only
where nothing can be told apart: both fail in the same way, or both are empty.
-/

/-- Two results of opening show the same: the same fault, or rows of which none can be told from
its partner. -/
def SameShown : Except Fault (List Row) -> Except Fault (List Row) -> Prop
  | .ok left, .ok right => Row.sameRows left right = true
  | .error left, .error right => left = right
  | _, _ => False

theorem SameShown.fault_or_rows {left right : Except Fault (List Row)}
    (same : SameShown left right) :
    (∃ fault, left = .error fault ∧ right = .error fault) ∨
      ∃ lefts rights, left = .ok lefts ∧ right = .ok rights ∧
        Row.sameRows lefts rights = true := by
  cases left with
  | error fault =>
      cases right with
      | error other =>
          have equal : fault = other := same
          exact Or.inl ⟨fault, rfl, by rw [equal]⟩
      | ok rights => exact False.elim same
  | ok lefts =>
      cases right with
      | error other => exact False.elim same
      | ok rights => exact Or.inr ⟨lefts, rights, rfl, rfl, same⟩

/-! ## The repeated category is the one that browsing began with -/

/-- The row of a caller that is reached from `top`. -/
structure IsCallerBelow (snapshot : Snapshot) (top : Row) (caller : Reference) (row : Row) :
    Prop where
  below : Row.IsBelow snapshot top row
  kind : row.kind = .caller
  reference : row.reference = some caller

namespace IsCallerBelow

variable {snapshot : Snapshot} {symbol : Symbol} {entry : String × Int} {caller : Reference}
  {row : Row}

/-- However long the chain of callers is, a caller is opened with the entry of the first row. -/
theorem exists_children_eq
    (reached : IsCallerBelow snapshot (symbolCategoryRow symbol entry) caller row) :
    ∃ focus, row.children snapshot =
      callChainRows snapshot (.symbol focus) (.ofEntry entry) caller := by
  rcases reached.below.follows (.category symbol entry) with ⟨built, belongs⟩
  rcases built.exists_isCallerOf reached.kind with ⟨other, shape⟩
  have sameEntry : other = entry := by
    rw [shape.category?] at belongs
    rcases belongs with same | impossible
    · exact Category.ofEntry_inj (Option.some.inj same)
    · cases impossible
  subst sameEntry
  rcases shape with ⟨_, focus, carried, made⟩
  have carries := reached.reference
  rw [callerRow_reference made] at carries
  cases carries
  exact ⟨focus, callerRow_children made snapshot⟩

/-- A caller opens if its calls can be read, and not otherwise. -/
theorem exists_children_iff
    (reached : IsCallerBelow snapshot (symbolCategoryRow symbol entry) caller row) :
    (∃ rows, row.children snapshot = .ok rows) ↔ ∃ calls, callsOf snapshot caller = .ok calls := by
  rcases reached.exists_children_eq with ⟨focus, children⟩
  rw [children]
  constructor
  · rintro ⟨rows, opened⟩
    rcases callChainRows_eq_ok_iff.mp opened with ⟨sites, found, _⟩
    rcases callSiteRows_eq_ok_iff.mp found with ⟨calls, listed, _⟩
    exact ⟨calls, listed⟩
  · rintro ⟨calls, listed⟩
    rcases exists_callSiteRows listed focus with ⟨sites, found⟩
    exact ⟨_, callChainRows_eq_ok_iff.mpr ⟨sites, found, rfl⟩⟩

/-- A caller that opens has the repeated category first, and nowhere else. -/
theorem eq_cons_of_children
    (reached : IsCallerBelow snapshot (symbolCategoryRow symbol entry) caller row)
    {rows : List Row} (opened : row.children snapshot = .ok rows) :
    ∃ sites, rows = recursiveRow (.ofEntry entry) caller :: sites ∧
      ∀ site ∈ sites, site.kind ≠ .recursive := by
  rcases reached.exists_children_eq with ⟨focus, children⟩
  rw [children] at opened
  rcases callChainRows_eq_ok_iff.mp opened with ⟨sites, found, rfl⟩
  refine ⟨sites, rfl, ?_⟩
  intro site member isRecursive
  have leaf := isLeaf_of_callSiteRows found site member
  rw [leaf.shape.1] at isRecursive
  cases isRecursive

end IsCallerBelow

/-! ## Rows of different ids cannot be told apart only if there are none -/

theorem id_eq_of_sameRows {left right : Row} {lefts rights : List Row}
    (same : Row.sameRows (left :: lefts) (right :: rights) = true) : left.id = right.id := by
  have parts := Bool.and_eq_true_iff.mp same
  simp only [Row.sameAs, Bool.and_eq_true, beq_iff_eq] at parts
  exact parts.1.1.1.1.1.1

theorem eq_nil_of_sameRows {before after : Snapshot} {symbol : Symbol}
    {first second : String × Int} {left right : List Row} (different : first.2 ≠ second.2)
    (firstGrouped : (Category.ofEntry first).isGrouped = true)
    (secondGrouped : (Category.ofEntry second).isGrouped = true)
    (leftOpened : categoryRows before (.symbol symbol) (.ofEntry first) = .ok left)
    (rightOpened : categoryRows after (.symbol symbol) (.ofEntry second) = .ok right)
    (same : Row.sameRows left right = true) : left = [] ∧ right = [] := by
  rcases (categoryRows_grouped_eq_ok_iff firstGrouped).mp leftOpened with
    ⟨_, _, _, _, leftMade⟩
  rcases (categoryRows_grouped_eq_ok_iff secondGrouped).mp rightOpened with
    ⟨_, _, _, _, rightMade⟩
  cases leftMade with
  | nil =>
      cases rightMade with
      | nil => exact ⟨rfl, rfl⟩
      | cons => cases same
  | cons leftFirst =>
      cases rightMade with
      | nil => cases same
      | cons rightFirst =>
          have sameId := id_eq_of_sameRows same
          exact absurd (fileGroupRow_id_inj leftFirst rightFirst sameId).1 different

/-- Callers that are looked up by different ids show the same only if they show nothing. -/
theorem SameShown.fault_or_nil {snapshot : Snapshot} {symbol : Symbol} {first second : Int}
    {left right : Except Fault (List Row)} (different : first ≠ second)
    (leftOpened : categoryRows snapshot (.symbol symbol) (.ofEntry (callerName, first)) = left)
    (rightOpened : categoryRows snapshot (.symbol symbol) (.ofEntry (callerName, second)) = right)
    (same : SameShown left right) :
    (∃ fault, left = .error fault ∧ right = .error fault) ∨ (left = .ok [] ∧ right = .ok []) := by
  rcases same.fault_or_rows with sameFault | ⟨lefts, rights, rfl, rfl, sameRows⟩
  · exact Or.inl sameFault
  · have empty := eq_nil_of_sameRows different (isGrouped_caller first) (isGrouped_caller second)
      leftOpened rightOpened sameRows
    exact Or.inr ⟨by rw [empty.1], by rw [empty.2]⟩

/-! ## Repeated rows against the caller's own rows -/

/-- A caller opens exactly if its calls can be read, and the row that repeats the category of
callers is then the first one below it.  That row opens to exactly what the caller's own row for the
category opens to, if the two records give the category the same id.  With different ids the two
show the same only if both fail with one fault or both are empty. -/
theorem repeated_category_agrees {snapshot : Snapshot} {symbol : Symbol}
    {known : List (String × Int)} {id : Int}
    (listed : snapshot.categories symbol.id = .ok known) (member : (callerName, id) ∈ known) :
    ∃ tops, focusRows snapshot (.symbol symbol) = .ok tops ∧
      symbolCategoryRow symbol (callerName, id) ∈ tops ∧
      ∀ caller row,
        IsCallerBelow snapshot (symbolCategoryRow symbol (callerName, id)) caller row ->
        ((∃ rows, row.children snapshot = .ok rows) ↔
          ∃ calls, callsOf snapshot caller = .ok calls) ∧
        ∀ rows, row.children snapshot = .ok rows ->
          ∃ again sites, rows = again :: sites ∧
            again = recursiveRow (.ofEntry (callerName, id)) caller ∧
            again.kind = .recursive ∧ again.id = some ("Caller-" ++ caller.id) ∧
            (∀ site ∈ sites, site.kind ≠ .recursive) ∧
            ∀ ownKnown ownId, snapshot.categories caller.id = .ok ownKnown ->
              (callerName, ownId) ∈ ownKnown ->
              ∃ ownTops own, focusRows snapshot (.symbol (.ofReference caller)) = .ok ownTops ∧
                own ∈ ownTops ∧
                own = symbolCategoryRow (.ofReference caller) (callerName, ownId) ∧
                (ownId = id -> again.children snapshot = own.children snapshot) ∧
                (ownId ≠ id -> SameShown (again.children snapshot) (own.children snapshot) ->
                  (∃ fault, again.children snapshot = .error fault ∧
                    own.children snapshot = .error fault) ∨
                  (again.children snapshot = .ok [] ∧ own.children snapshot = .ok [])) := by
  rcases exists_symbolCategoryRow listed member with ⟨tops, shown, topMember⟩
  refine ⟨tops, shown, topMember, ?_⟩
  intro caller row reached
  refine ⟨reached.exists_children_iff, ?_⟩
  intro rows opened
  rcases reached.eq_cons_of_children opened with ⟨sites, first, others⟩
  refine ⟨_, sites, first, rfl, rfl, rfl, others, ?_⟩
  intro ownKnown ownId ownListed ownMember
  have ownRow : ∃ ownTops, focusRows snapshot (.symbol (.ofReference caller)) = .ok ownTops ∧
      symbolCategoryRow (.ofReference caller) (callerName, ownId) ∈ ownTops :=
    exists_symbolCategoryRow ownListed ownMember
  rcases ownRow with ⟨ownTops, ownShown, ownTopMember⟩
  refine ⟨ownTops, _, ownShown, ownTopMember, rfl, ?_, ?_⟩
  · intro sameId
    rw [sameId]
    rfl
  · intro differentId same
    exact same.fault_or_nil (Ne.symm differentId) rfl rfl

/-! ## A function whose callers number the category differently -/

namespace RenumberedCallers

/-- A reference in the one file of the snapshot. -/
def reference (id : String) : Reference :=
  { id, range := some ⟨"f", 0, 0⟩, displayValue := "", tags := [], nameHash := 0 }

/-- The record of a symbol with one caller category and its callers. -/
def record (id : Int) (callers : List String) : Value :=
  .object [
    ("reference_types", .object [(callerName, .int id)]),
    ("references", .object [((Value.int id).plain, .list (callers.map fun caller =>
      .object [("id", .text caller), ("range", .object [("file", .text "f")])]))])]

/-- The symbol `s` is called by `c` and by `e`, which call each other.  The category of callers
has the id zero at `s` and `e`, and the id one at `c`. -/
def snapshot : Snapshot where
  members := [
    ("files", .object [("f", .object [])]),
    ("symbols", .object [("s", record 0 ["c", "e"]), ("c", record 1 ["e"]),
      ("e", record 0 ["c"])])]

/-- The row of the callers of a symbol, by the id that the category has at `s`. -/
def callersOf (id : String) : Row :=
  symbolCategoryRow (.ofReference (reference id)) (callerName, 0)

theorem isCallerBelow_e : ∃ row,
    IsCallerBelow snapshot (callersOf "s") (reference "e") row ∧
      row.children snapshot =
        .ok [recursiveRow (.ofEntry (callerName, 0)) (reference "e")] :=
  ⟨_, ⟨.child (.child .self rfl List.mem_cons_self) rfl
    (List.mem_cons_of_mem _ List.mem_cons_self), rfl, rfl⟩, rfl⟩

theorem isCallerBelow_c : ∃ row,
    IsCallerBelow snapshot (callersOf "s") (reference "c") row ∧
      row.children snapshot =
        .ok [recursiveRow (.ofEntry (callerName, 0)) (reference "c")] :=
  ⟨_, ⟨.child (.child .self rfl List.mem_cons_self) rfl List.mem_cons_self, rfl, rfl⟩, rfl⟩

/-- Where the ids are the same, the repeated row and the caller's own row agree. -/
theorem repeated_category_agrees_for_e :
    snapshot.categories "s" = .ok [(callerName, 0)] ∧
      snapshot.categories "e" = .ok [(callerName, 0)] ∧
      (∃ group, (callersOf "e").children snapshot = .ok [group]) ∧
      (recursiveRow (.ofEntry (callerName, 0)) (reference "e")).children snapshot =
        (callersOf "e").children snapshot := by
  have listed : snapshot.categories (Symbol.ofReference (reference "s")).id =
      .ok [(callerName, 0)] := rfl
  rcases repeated_category_agrees listed List.mem_cons_self with ⟨_, _, _, agrees⟩
  rcases isCallerBelow_e with ⟨row, reached, opened⟩
  rcases (agrees _ row reached).2 _ opened with ⟨again, _, _, rfl, _, _, _, compare⟩
  rcases compare _ 0 rfl List.mem_cons_self with ⟨_, _, _, _, rfl, same, _⟩
  exact ⟨rfl, rfl, ⟨_, rfl⟩, same rfl⟩

/-- Where the ids differ, the repeated row may ask for a category that the caller does not have,
although the caller's own row for callers lists one. -/
theorem repeated_category_fails_for_c :
    snapshot.categories "s" = .ok [(callerName, 0)] ∧
      (∃ row, IsCallerBelow snapshot (callersOf "s") (reference "c") row ∧
        row.children snapshot =
          .ok [recursiveRow (.ofEntry (callerName, 0)) (reference "c")]) ∧
      snapshot.categories "c" = .ok [(callerName, 1)] ∧
      focusRows snapshot (.symbol (.ofReference (reference "c"))) =
        .ok [symbolCategoryRow (.ofReference (reference "c")) (callerName, 1)] ∧
      (recursiveRow (.ofEntry (callerName, 0)) (reference "c")).children snapshot =
        .error (.unknownCategory "0" "symbol c") ∧
      ∃ group, (symbolCategoryRow (.ofReference (reference "c")) (callerName, 1)).children
        snapshot = .ok [group] :=
  ⟨rfl, isCallerBelow_c, rfl, rfl, rfl, _, rfl⟩

end RenumberedCallers

end RefTree
