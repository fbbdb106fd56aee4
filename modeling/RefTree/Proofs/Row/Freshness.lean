import RefTree.Proofs.Row.Grammar

namespace RefTree

/-!
# What a row remembers and what it looks up

A host may keep a row for as long as it likes and open it in another snapshot than the one in which
the row was made.  Rows of groups, properties and references then give what they would have given at
once.  All other rows look at the current snapshot, and of the past they remember only the symbol or
the file, the category and the caller that they were made for.

The statement is about two moments of one session: the moment when a row is made, by showing a focus
or by opening another row, and the later moment when it is opened.
-/

/-! ## Sessions in which rows are made -/

/-- What rows are made from: a focus that is shown, or a row that is opened. -/
inductive Maker where
  | focus (focus : Focus)
  | row (parent : Row)

namespace Maker

def rows (snapshot : Snapshot) : Maker -> Except Fault (List Row)
  | .focus chosen => focusRows snapshot chosen
  | .row parent => parent.children snapshot

/-- Any focus can be shown, but only rows that were given out can be opened. -/
def IsGiven (session : Session) : Maker -> Prop
  | .focus _ => True
  | .row parent => parent ∈ session.rows

theorem isBuilt_rows {session : Session} (built : ∀ row ∈ session.rows, row.IsBuilt)
    {maker : Maker} (given : maker.IsGiven session) {snapshot : Snapshot} {made : List Row}
    (making : maker.rows snapshot = .ok made) : ∀ row ∈ made, row.IsBuilt := by
  cases maker with
  | focus focus => exact isBuilt_of_focusRows making
  | row parent =>
      intro row member
      exact ((built parent given).follows_children making row member).1

end Maker

/-- One step of a session: rows are made and kept, or the snapshot is replaced by any other one. -/
inductive Works : Session -> Session -> Prop
  | make {session : Session} {maker : Maker} {made : List Row} (given : maker.IsGiven session)
      (making : maker.rows session.snapshot = .ok made) :
      Works session { session with rows := session.rows ++ made }
  | change (session : Session) (snapshot : Snapshot) : Works session { session with snapshot }

namespace Works

theorem isBuilt {before after : Session} (step : Works before after)
    (built : ∀ row ∈ before.rows, row.IsBuilt) : ∀ row ∈ after.rows, row.IsBuilt := by
  cases step with
  | make given making =>
      intro row member
      rcases List.mem_append.mp member with old | new
      · exact built row old
      · exact Maker.isBuilt_rows built given making row new
  | change => exact built

/-- A step gives new numbers to new rows and changes no row that has one. -/
theorem isPrefix_rows {before after : Session} (step : Works before after) :
    before.rows <+: after.rows := by
  cases step with
  | make given making => exact List.prefix_append _ _
  | change => exact List.prefix_rfl

end Works

theorem isBuilt_of_working {start session : Session}
    (run : Relation.ReflTransGen Works start session)
    (built : ∀ row ∈ start.rows, row.IsBuilt) : ∀ row ∈ session.rows, row.IsBuilt := by
  induction run with
  | refl => exact built
  | tail _ step inductionHypothesis => exact step.isBuilt inductionHypothesis

theorem isPrefix_rows_of_working {before after : Session}
    (run : Relation.ReflTransGen Works before after) : before.rows <+: after.rows := by
  induction run with
  | refl => exact List.prefix_rfl
  | tail _ step inductionHypothesis => exact inductionHypothesis.trans step.isPrefix_rows

/-! ## What is remembered -/

namespace Row

/-- The row of a category remembers the focus it was made for, and the category as it was listed
then.  It looks up the references of that category. -/
def RecallsCategory (earlier : Snapshot) (maker : Maker) (row : Row)
    (answer : Snapshot -> Except Fault (List Row)) : Prop :=
  (∃ symbol known entry, maker = .focus (.symbol symbol) ∧
    earlier.categories symbol.id = .ok known ∧ entry ∈ known ∧
    row = symbolCategoryRow symbol entry ∧
    answer = fun now => categoryRows now (.symbol symbol) (.ofEntry entry)) ∨
  ∃ file known entry, maker = .focus (.file file) ∧
    earlier.fileCategories file.id = .ok known ∧ entry ∈ known ∧
    row = fileCategoryRow file entry ∧
    answer = fun now => fileCategoryRows now (.file file) (.ofEntry entry)

/-- The row of a group remembers references that were found when it was made.  It always opens to
the same rows, and its label says how many they are. -/
def RecallsGroup (earlier : Snapshot) (maker : Maker) (row : Row)
    (answer : Snapshot -> Except Fault (List Row)) : Prop :=
  ∃ parent symbol category found id members name below,
    maker = .row parent ∧ parent.source = .category (.symbol symbol) category ∧
    earlier.references symbol.id category.id = .ok found ∧ members ⊆ found ∧
    row.source = .fileGroup (.symbol symbol) category id members ∧
    row.label.text = name ++ " (" ++ below.length.repr ++ ")" ∧ answer = fun _ => .ok below

/-- The row of a caller remembers the caller, and the symbol and the category that its group was
made for.  It looks up the calls of the caller. -/
def RecallsCaller (maker : Maker) (row : Row) (answer : Snapshot -> Except Fault (List Row)) :
    Prop :=
  ∃ parent symbol category id members caller,
    maker = .row parent ∧ parent.source = .fileGroup (.symbol symbol) category id members ∧
    caller ∈ members ∧ row.reference = some caller ∧
    row.source = .calls (.symbol symbol) category caller ∧
    answer = fun now => callChainRows now (.symbol symbol) category caller

/-- The row that repeats a category remembers the caller and the category of the row above.  It
looks up the references of the caller. -/
def RecallsRepeated (maker : Maker) (row : Row) (answer : Snapshot -> Except Fault (List Row)) :
    Prop :=
  ∃ parent symbol category caller,
    maker = .row parent ∧ parent.source = .calls (.symbol symbol) category caller ∧
    row.reference = some caller ∧
    row.source = .category (.symbol (.ofReference caller)) category ∧
    answer = fun now => categoryRows now (.symbol (.ofReference caller)) category

/-- What a row gives when it is opened, as a function of the snapshot at that time.  Everything else
in it was fixed when the row was made. -/
def Recalls (earlier : Snapshot) (maker : Maker) (row : Row)
    (answer : Snapshot -> Except Fault (List Row)) : Prop :=
  match row.kind with
  | .property | .reference => answer = fun _ => .ok []
  | .category => row.RecallsCategory earlier maker answer
  | .fileGroup => row.RecallsGroup earlier maker answer
  | .caller => row.RecallsCaller maker answer
  | .recursive => row.RecallsRepeated maker answer
  | .custom _ => False

/-- A row opens, in every snapshot, to what it recalls. -/
def IsFresh (earlier : Snapshot) (maker : Maker) (row : Row) : Prop :=
  ∃ answer, row.Recalls earlier maker answer ∧ ∀ now, row.children now = answer now

/-! ## What is made from each kind of row -/

theorem IsLeaf.isFresh {row : Row} (leaf : row.IsLeaf) (earlier : Snapshot) (maker : Maker) :
    row.IsFresh earlier maker := by
  refine ⟨fun _ => .ok [], ?_, children_of_not_expandable leaf.shape.2.1⟩
  unfold Recalls
  rw [leaf.shape.1]

theorem length_of_fileGroupRows {focus : Focus} {category : Category} {id : String}
    {members : List Reference} {rows : List Row}
    (opened : fileGroupRows focus category id members = .ok rows) :
    members.length = rows.length := by
  have sameLength := congrArg List.length (map_reference_of_fileGroupRows opened)
  rw [List.length_map, List.length_map] at sameLength
  exact sameLength.symm

/-- Whatever opens a category gives groups or leaves that are fresh. -/
theorem isFresh_of_categoryRows {earlier : Snapshot} {parent : Row} {symbol : Symbol}
    {entry : String × Int} {made : List Row}
    (source : parent.source = .category (.symbol symbol) (.ofEntry entry))
    (opened : categoryRows earlier (.symbol symbol) (.ofEntry entry) = .ok made) :
    ∀ row ∈ made, row.IsFresh earlier (.row parent) := by
  intro row member
  cases grouped : (Category.ofEntry entry).isGrouped with
  | false => exact (isLeaf_of_categoryRows grouped opened row member).isFresh _ _
  | true =>
      rcases (categoryRows_grouped_eq_ok_iff grouped).mp opened with
        ⟨found, groups, answered, run, made⟩
      rcases Outcome.exists_of_mem_right made member with ⟨group, belongs, madeFrom⟩
      have located := (groupByFile_isFilled run group belongs).isLocated
      rcases exists_fileGroupRows located (.symbol symbol) (.ofEntry entry)
        (symbol.id ++ "-" ++ (Category.ofEntry entry).id.plain ++ "-" ++ group.file) with
          ⟨below, frozen⟩
      have always : ∀ now, row.children now = .ok below := by
        intro now
        rw [fileGroupRow_children madeFrom, frozen]
      refine ⟨fun _ => .ok below, ?_, always⟩
      unfold Recalls
      rw [fileGroupRow_kind madeFrom]
      rcases fileGroupRow_eq_ok_iff.mp madeFrom with ⟨file, _, rfl⟩
      refine ⟨parent, symbol, .ofEntry entry, found, _, group.members, file.name, below, rfl,
        source, answered, groupByFile_members_subset run belongs, rfl, ?_, rfl⟩
      rw [length_of_fileGroupRows frozen]

theorem isFresh_of_focusRows {earlier : Snapshot} {focus : Focus} {made : List Row}
    (shown : focusRows earlier focus = .ok made) :
    ∀ row ∈ made, row.IsFresh earlier (.focus focus) := by
  intro row member
  cases focus with
  | symbol symbol =>
      rcases symbolRows_eq_ok_iff.mp shown with ⟨properties, known, _, listed, rfl⟩
      rcases List.mem_append.mp member with top | below
      · rcases List.mem_map.mp top with ⟨property, _, rfl⟩
        exact ⟨fun _ => .ok [], rfl, fun now => rfl⟩
      · rcases List.mem_map.mp below with ⟨entry, belongs, rfl⟩
        refine ⟨fun now => categoryRows now (.symbol symbol) (.ofEntry entry), ?_, fun now => rfl⟩
        exact Or.inl ⟨symbol, known, entry, rfl, listed, belongs, rfl, rfl⟩
  | file file =>
      rcases fileRows_eq_ok_iff.mp shown with ⟨known, listed, rfl⟩
      rcases List.mem_map.mp member with ⟨entry, belongs, rfl⟩
      refine ⟨fun now => fileCategoryRows now (.file file) (.ofEntry entry), ?_, fun now => rfl⟩
      exact Or.inr ⟨file, known, entry, rfl, listed, belongs, rfl, rfl⟩
  | other value => cases shown

theorem IsBuilt.isFresh_children {parent : Row} (built : parent.IsBuilt) {earlier : Snapshot}
    {made : List Row} (opened : parent.children earlier = .ok made) :
    ∀ row ∈ made, row.IsFresh earlier (.row parent) := by
  intro row member
  cases built with
  | property symbol property =>
      cases opened
      cases member
  | category symbol entry => exact isFresh_of_categoryRows rfl opened row member
  | fileCategory file entry => exact (isLeaf_of_fileCategoryRows opened row member).isFresh _ _
  | @fileGroup entry _ shape =>
      rcases shape with ⟨_, _, symbol, group, _, madeFrom⟩
      rw [fileGroupRow_children madeFrom] at opened
      by_cases named : entry.1 = callerName
      · rw [fileGroupRows_caller _ _ _ _ named] at opened
        rcases Outcome.exists_of_mem_mapM opened member with ⟨caller, belongs, callerMade⟩
        refine ⟨fun now => callChainRows now (.symbol symbol) (.ofEntry entry) caller, ?_,
          callerRow_children callerMade⟩
        rcases fileGroupRow_eq_ok_iff.mp madeFrom with ⟨file, _, rfl⟩
        rcases callerRow_eq_ok_iff.mp callerMade with ⟨label, _, rfl⟩
        exact ⟨_, symbol, .ofEntry entry, _, group.members, caller, rfl, rfl, belongs, rfl, rfl,
          rfl⟩
      · exact (isLeaf_of_fileGroupRows named opened row member).isFresh _ _
  | @caller entry _ shape =>
      rcases shape with ⟨_, symbol, caller, madeFrom⟩
      rw [callerRow_children madeFrom] at opened
      rcases callChainRows_eq_ok_iff.mp opened with ⟨sites, found, rfl⟩
      rcases List.mem_cons.mp member with rfl | later
      · refine ⟨fun now => categoryRows now (.symbol (.ofReference caller)) (.ofEntry entry), ?_,
          fun now => rfl⟩
        rcases callerRow_eq_ok_iff.mp madeFrom with ⟨label, _, rfl⟩
        exact ⟨_, symbol, .ofEntry entry, caller, rfl, rfl, rfl, rfl, rfl⟩
      · exact (isLeaf_of_callSiteRows found row later).isFresh _ _
  | recursive shape =>
      rcases shape with ⟨_, caller, rfl⟩
      exact isFresh_of_categoryRows rfl opened row member
  | leaf shape =>
      rw [children_of_not_expandable shape.shape.2.1] at opened
      cases opened
      cases member

end Row

/-! ## Opening a row later -/

theorem Session.perform_expand {session : Session} {number : Nat} {row : Row}
    (kept : session.rows[number]? = some row) :
    (session.perform (.expand number)).2 =
      .ofExcept (.rows session.rows.length) (row.children session.snapshot) := by
  unfold perform
  simp only [kept]
  cases row.children session.snapshot with
  | ok below => rfl
  | error fault => rfl

/-- A row is made in a session and opened later in the same session, after any number of other rows
were made and any number of changes to the snapshot.  What it gives is a function of the snapshot at
the time, as the row recalls from its making; opened at once, it would have given the same function
of the snapshot in which it was made. -/
theorem expansion_is_fresh {first : Snapshot} {before after : Session} {maker : Maker}
    {made : List Row} {index : Nat} {row : Row}
    (reached : Relation.ReflTransGen Works { snapshot := first } before)
    (given : maker.IsGiven before) (making : maker.rows before.snapshot = .ok made)
    (numbered : made[index]? = some row)
    (later : Relation.ReflTransGen Works { before with rows := before.rows ++ made } after) :
    ∃ answer, row.Recalls before.snapshot maker answer ∧
      row.children before.snapshot = answer before.snapshot ∧
      (after.perform (.expand (before.rows.length + index))).2 =
        .ofExcept (.rows after.rows.length) (answer after.snapshot) := by
  have built := isBuilt_of_working reached (fun row member => absurd member List.not_mem_nil)
  have member : row ∈ made := List.mem_of_getElem? numbered
  have fresh : row.IsFresh before.snapshot maker := by
    cases maker with
    | focus focus => exact Row.isFresh_of_focusRows making row member
    | row parent => exact (built parent given).isFresh_children making row member
  have kept : after.rows[before.rows.length + index]? = some row := by
    rcases isPrefix_rows_of_working later with ⟨rest, same⟩
    have inside : index < made.length := (List.getElem?_eq_some_iff.mp numbered).1
    rw [← same, List.append_assoc, List.getElem?_append_right (Nat.le_add_right _ _),
      Nat.add_sub_cancel_left, List.getElem?_append_left inside, numbered]
  rcases fresh with ⟨answer, recalled, opens⟩
  refine ⟨answer, recalled, opens before.snapshot, ?_⟩
  rw [Session.perform_expand kept, opens]

/-! ## Sessions of a host -/

theorem Browse.works {before after : Session} (step : Browse before after) :
    Works before after := by
  cases step with
  | @expand row _ given opened => exact @Works.make _ (.row row) _ given opened
  | change snapshot => exact .change before snapshot

/-- The actions that show a focus or browse what was shown before. -/
def Action.IsWorking : Action -> Prop
  | .opening (.focus _) => True
  | action => action.IsBrowsing

namespace Session

theorem perform_works (session : Session) {action : Action} (working : action.IsWorking) :
    Relation.ReflTransGen Works session (session.perform action).1 := by
  have browses : action.IsBrowsing ->
      Relation.ReflTransGen Works session (session.perform action).1 := by
    intro browsing
    apply Relation.ReflTransGen.mono (fun _ _ => Browse.works)
    exact session.perform_browses browsing
  cases action with
  | opening opening =>
      cases opening with
      | focus spec =>
          have kept : session.perform (.opening (.focus spec)) =
              session.keep (session.opened (.focus spec)) := rfl
          rw [kept]
          cases opened : session.opened (.focus spec) with
          | error fault => exact Relation.ReflTransGen.refl
          | ok made =>
              rcases Outcome.bind_eq_ok_iff.mp opened with ⟨focus, _, shown⟩
              have step : Works session { session with rows := session.rows ++ made } :=
                @Works.make _ (.focus focus) _ trivial shown
              exact Relation.ReflTransGen.single step
      | _ => exact False.elim working
  | _ => exact browses working

/-- Whatever a host does by showing foci and browsing is a run of such steps. -/
theorem run_works (session : Session) {actions : List Action}
    (working : ∀ action ∈ actions, action.IsWorking) :
    Relation.ReflTransGen Works session (session.run actions).1 := by
  induction actions generalizing session with
  | nil => exact Relation.ReflTransGen.refl
  | cons action rest inductionHypothesis =>
      rcases List.forall_mem_cons.mp working with ⟨first, later⟩
      exact (session.perform_works first).trans
        (inductionHypothesis (session.perform action).1 later)

end Session

namespace LostSymbols

/-- The top rows of the function are shown. -/
def shown : Session :=
  (Session.run { snapshot } [.opening (.focus (.given (.symbol symbol)))]).1

/-- Its callers are opened, then all symbols and all files are lost, and the callers are opened
again without a result. -/
def emptied : Session :=
  (shown.run [.expand 1, .erase [.member "symbols"], .erase [.member "files"], .expand 1]).1

/-- The group of callers that was found at first still opens to one row. -/
theorem expansion_is_fresh_after_loss :
    ∃ parent made group answer, shown.rows[1]? = some parent ∧
      parent.children shown.snapshot = .ok made ∧ made[0]? = some group ∧
      group.kind = .fileGroup ∧ group.label.text = "f (1)" ∧ emptied.snapshot.members = [] ∧
      group.Recalls shown.snapshot (.row parent) answer ∧
      group.children shown.snapshot = answer shown.snapshot ∧
      (emptied.perform (.expand 3)).2 =
        .ofExcept (.rows emptied.rows.length) (answer emptied.snapshot) := by
  have showing : ∀ action ∈ [Action.opening (.focus (.given (.symbol symbol)))],
      action.IsWorking := by
    intro action member
    rw [List.mem_singleton.mp member]
    trivial
  have losing : ∀ action ∈ [Action.erase [.member "symbols"], .erase [.member "files"], .expand 1],
      action.IsWorking := by
    intro action member
    simp only [List.mem_cons, List.not_mem_nil, or_false] at member
    rcases member with rfl | rfl | rfl <;> trivial
  have reached := Session.run_works { snapshot } showing
  have later := Session.run_works (shown.perform (.expand 1)).1 losing
  have given : (Maker.row (symbolCategoryRow symbol (callerName, 0))).IsGiven shown :=
    List.mem_of_getElem? (i := 1) rfl
  rcases @expansion_is_fresh snapshot shown emptied _ _ 0 _ reached given rfl rfl later with
    ⟨answer, recalled, opened, expanded⟩
  exact ⟨_, _, _, answer, rfl, rfl, rfl, rfl, rfl, rfl, recalled, opened, expanded⟩

end LostSymbols

end RefTree
