import RefTree.Proofs.Row.Built

namespace RefTree

open Document

/-!
# Callers of callers are walks in the call graph

Opening the callers of a symbol, then one of them, then the repeated category below it, and so on,
follows the calls backwards.  The two sides of that statement are defined apart.  On the side of
the tree are the paths through caller rows, found by opening rows and looking at their kinds.  On
the side of the snapshot are the walks, found by asking for the references of the category.
Grouping by file puts callers in another order, so the two agree up to the order of the list, and
every walk is met as often as the lists of the snapshot give it.

The call sites below the last caller of a path are compared with its own list of calls.  Which of
them are shown depends on the caller before it on the path, or on the symbol where the path begins.
-/

/-! ## Paths in the tree -/

namespace Row

/-- A row and all the rows below it can be opened, for a number of levels. -/
def OpensTo (snapshot : Snapshot) : Nat -> Row -> Prop
  | 0, _ => True
  | depth + 1, row =>
      ∃ rows, row.children snapshot = .ok rows ∧ ∀ child ∈ rows, child.OpensTo snapshot depth

/-- Whether a tree can be opened so far is decided by opening it. -/
instance decidableOpensTo (snapshot : Snapshot) :
    (depth : Nat) -> (row : Row) -> Decidable (row.OpensTo snapshot depth)
  | 0, _ => .isTrue trivial
  | depth + 1, row =>
      match opened : row.children snapshot with
      | .ok rows =>
          have (child : Row) : Decidable (child.OpensTo snapshot depth) :=
            decidableOpensTo snapshot depth child
          decidable_of_iff (∀ child ∈ rows, child.OpensTo snapshot depth)
            ⟨fun deeper => ⟨rows, opened, deeper⟩, by
              rintro ⟨others, reopened, deeper⟩
              rw [opened] at reopened
              cases reopened
              exact deeper⟩
      | .error fault => .isFalse (by
          rintro ⟨rows, reopened, _⟩
          rw [opened] at reopened
          cases reopened)

/-- The children of one kind.  A row that cannot be opened has none. -/
def childrenOfKind (snapshot : Snapshot) (kind : RowKind) (row : Row) : List Row :=
  ((row.children snapshot).toOption.getD []).filter fun child => child.kind == kind

/-- The callers in the groups below a row. -/
def callersBelow (snapshot : Snapshot) (row : Row) : List Row :=
  (row.childrenOfKind snapshot .fileGroup).flatMap (childrenOfKind snapshot .caller)

/-- The paths from a row of callers through one caller row and a number of further ones, each
reached through a group below the repeated category of the one before. -/
def callerPaths (snapshot : Snapshot) : Nat -> Row -> List (List Row)
  | 0, row => (row.callersBelow snapshot).map fun caller => [caller]
  | more + 1, row =>
      (row.callersBelow snapshot).flatMap fun caller =>
        (caller.childrenOfKind snapshot .recursive).flatMap fun again =>
          (again.callerPaths snapshot more).map fun rest => caller :: rest

end Row

/-! ## Walks in the snapshot -/

/-- The walks from an owner backwards along calls, to one caller and a number of further ones.  The
callers of every symbol are looked up by the same category. -/
def Snapshot.callWalks (snapshot : Snapshot) (category : Int) :
    Nat -> String -> Except Fault (List (List Reference))
  | 0, owner => do
      let callers <- snapshot.references owner (.int category)
      return callers.map fun caller => [caller]
  | more + 1, owner => do
      let callers <- snapshot.references owner (.int category)
      let walks <- callers.mapM fun caller => do
        let rest <- snapshot.callWalks category more caller.id
        return rest.map fun walk => caller :: walk
      return walks.flatten

/-- The calls that a record lists: those of its category for calls, or none if it has no such
category. -/
def Snapshot.ListsCalls (snapshot : Snapshot) (owner : String) (calls : List Reference) : Prop :=
  ∃ known, snapshot.categories owner = .ok known ∧
    ((∃ id, (callsName, id) ∈ known ∧ snapshot.references owner (.int id) = .ok calls) ∨
      ((∀ entry ∈ known, entry.1 ≠ callsName) ∧ calls = []))

/-- The hash of the full name of the last reference of a chain, or of the symbol where it begins. -/
def chainHash (symbol : Symbol) (chain : List Reference) : Int :=
  (chain.getLast?.map Reference.nameHash).getD symbol.nameHash

/-- The row of a caller opens to the repeated category and then to leaves for those of the caller's
own calls that have a given hash, in stored order and with none left out or added. -/
def Row.ShowsCallsTo (snapshot : Snapshot) (hash : Int) (row : Row) : Prop :=
  ∃ caller calls again sites, row.reference = some caller ∧
    snapshot.ListsCalls caller.id calls ∧
    row.children snapshot = .ok (again :: sites) ∧ again.kind = .recursive ∧
    (∀ site ∈ sites, site.kind = .reference) ∧
    sites.map Row.reference = (calls.filter fun call => call.nameHash == hash).map some

/-! ## One step from a row of callers to the callers -/

namespace Row

/-- A row that is opened by asking for the callers of a symbol: a top row or a repeated one. -/
def AsksFor (symbol : Symbol) (id : Int) (row : Row) : Prop :=
  row.expandable = true ∧ row.source = .category (.symbol symbol) (.ofEntry (callerName, id))

theorem AsksFor.children_eq {symbol : Symbol} {id : Int} {row : Row} (asks : row.AsksFor symbol id)
    (snapshot : Snapshot) :
    row.children snapshot =
      categoryRows snapshot (.symbol symbol) (.ofEntry (callerName, id)) := by
  unfold children
  rw [if_pos asks.1, asks.2]

theorem asksFor_symbolCategoryRow (symbol : Symbol) (id : Int) :
    (symbolCategoryRow symbol (callerName, id)).AsksFor symbol id :=
  ⟨rfl, rfl⟩

theorem asksFor_recursiveRow (caller : Reference) (id : Int) :
    (recursiveRow (.ofEntry (callerName, id)) caller).AsksFor (.ofReference caller) id :=
  ⟨rfl, rfl⟩

/-- If all children are of one kind, looking for that kind finds them all. -/
theorem childrenOfKind_eq {snapshot : Snapshot} {row : Row} {rows : List Row} {kind : RowKind}
    (opened : row.children snapshot = .ok rows) (kinds : ∀ child ∈ rows, child.kind = kind) :
    row.childrenOfKind snapshot kind = rows := by
  unfold childrenOfKind
  rw [opened]
  apply List.filter_eq_self.mpr
  intro child member
  simpa using kinds child member

/-- The only repeated category below a caller is the first of its children. -/
theorem childrenOfKind_recursive {snapshot : Snapshot} {row : Row} {symbol : Symbol}
    {category : Category} {caller : Reference} {rows : List Row}
    (made : callerRow (.symbol symbol) category caller = .ok row)
    (opened : row.children snapshot = .ok rows) :
    row.childrenOfKind snapshot .recursive = [recursiveRow category caller] := by
  unfold childrenOfKind
  rw [opened]
  rw [callerRow_children made] at opened
  rcases callChainRows_eq_ok_iff.mp opened with ⟨sites, found, rfl⟩
  have others : sites.filter (fun site => site.kind == .recursive) = [] := by
    apply List.filter_eq_nil_iff.mpr
    intro site member
    rw [(isLeaf_of_callSiteRows found site member).shape.1]
    decide
  change (recursiveRow category caller :: sites).filter _ = _
  rw [List.filter_cons_of_pos rfl, others]

/-- A group of callers shows a caller row for each of its members. -/
theorem childrenOfKind_caller {snapshot now : Snapshot} {row : Row} {symbol : Symbol}
    {id : Int} {group : FileGroup} (filled : group.IsFilled)
    (made : fileGroupRow now (.symbol symbol) (.ofEntry (callerName, id)) group = .ok row) :
    List.Forall₂
      (fun caller shown =>
        callerRow (.symbol symbol) (.ofEntry (callerName, id)) caller = .ok shown)
      group.members (row.childrenOfKind snapshot .caller) := by
  have sameRows := fileGroupRow_children made snapshot
  rcases exists_fileGroupRows filled.isLocated (.symbol symbol) (.ofEntry (callerName, id))
    (symbol.id ++ "-" ++ (Category.ofEntry (callerName, id)).id.plain ++ "-" ++ group.file) with
      ⟨rows, opened⟩
  have kinds : ∀ child ∈ rows, child.kind = .caller := by
    intro child member
    rcases isCallerOf_of_fileGroupRows rfl opened child member with ⟨_, _, _, madeFrom⟩
    exact callerRow_kind madeFrom
  rw [childrenOfKind_eq (sameRows.trans opened) kinds]
  rw [fileGroupRows_caller _ _ _ _ rfl] at opened
  exact Outcome.mapM_eq_ok_iff.mp opened

end Row

/-- The callers in the groups below a row are those that the snapshot lists, put in order of their
files. -/
theorem exists_callersBelow {snapshot : Snapshot} {symbol : Symbol} {id : Int} {row : Row}
    {rows : List Row} (asks : row.AsksFor symbol id) (opened : row.children snapshot = .ok rows) :
    ∃ callers arranged, snapshot.references symbol.id (.int id) = .ok callers ∧
      arranged.Perm callers ∧
      List.Forall₂
        (fun caller shown =>
          callerRow (.symbol symbol) (.ofEntry (callerName, id)) caller = .ok shown)
        arranged (row.callersBelow snapshot) := by
  have asked := opened
  rw [asks.children_eq snapshot] at asked
  rcases (categoryRows_grouped_eq_ok_iff (isGrouped_caller id)).mp asked with
    ⟨callers, groups, answered, grouped, made⟩
  refine ⟨callers, groups.flatMap FileGroup.members, answered,
    groupByFile_members_perm grouped, ?_⟩
  have kinds : ∀ child ∈ rows, child.kind = .fileGroup := by
    intro child member
    rcases Outcome.exists_of_mem_right made member with ⟨group, _, madeFrom⟩
    exact fileGroupRow_kind madeFrom
  unfold Row.callersBelow
  rw [Row.childrenOfKind_eq opened kinds]
  have filled := groupByFile_isFilled grouped
  clear opened asked answered grouped kinds
  induction made with
  | nil => exact List.Forall₂.nil
  | cons madeFrom _ inductionHypothesis =>
      simp only [List.flatMap_cons]
      apply List.rel_append
      · exact Row.childrenOfKind_caller (filled _ List.mem_cons_self) madeFrom
      · exact inductionHypothesis
          (fun group member => filled group (List.mem_cons_of_mem _ member))

/-! ## What can be opened further -/

namespace Row

theorem OpensTo.childrenOfKind {snapshot : Snapshot} {depth : Nat} {row : Row}
    (opens : row.OpensTo snapshot (depth + 1)) (kind : RowKind) :
    ∀ child ∈ row.childrenOfKind snapshot kind, child.OpensTo snapshot depth := by
  rcases opens with ⟨rows, opened, deeper⟩
  intro child member
  unfold Row.childrenOfKind at member
  rw [opened] at member
  exact deeper child (List.mem_filter.mp member).1

theorem OpensTo.callersBelow {snapshot : Snapshot} {depth : Nat} {row : Row}
    (opens : row.OpensTo snapshot (depth + 2)) :
    ∀ caller ∈ row.callersBelow snapshot, caller.OpensTo snapshot depth := by
  intro caller member
  rcases List.mem_flatMap.mp member with ⟨group, groupMember, callerMember⟩
  have groupOpens := opens.childrenOfKind .fileGroup group groupMember
  exact groupOpens.childrenOfKind .caller caller callerMember

/-- Below a caller that can be opened, the repeated category is the only one, and it can be opened
as far as the caller allows. -/
theorem OpensTo.recursive {snapshot : Snapshot} {depth : Nat} {row : Row} {symbol : Symbol}
    {category : Category} {caller : Reference} (opens : row.OpensTo snapshot (depth + 1))
    (made : callerRow (.symbol symbol) category caller = .ok row) :
    row.childrenOfKind snapshot .recursive = [recursiveRow category caller] ∧
      (recursiveRow category caller).OpensTo snapshot depth := by
  have only : row.childrenOfKind snapshot .recursive = [recursiveRow category caller] := by
    rcases opens with ⟨rows, opened, _⟩
    exact childrenOfKind_recursive made opened
  refine ⟨only, opens.childrenOfKind .recursive _ ?_⟩
  rw [only]
  exact List.mem_cons_self

end Row

/-! ## Paths carry exactly the walks -/

/-- Lists made from partners, element by element, are the same up to order if the parts made from
every two partners are. -/
theorem flatMap_perm_of_forall₂ {source target result : Type} {related : source -> target -> Prop}
    {sources : List source} {targets : List target} {fromSource : source -> List result}
    {fromTarget : target -> List result} (made : List.Forall₂ related sources targets)
    (parts : ∀ element ∈ sources, ∀ partner ∈ targets, related element partner ->
      (fromTarget partner).Perm (fromSource element)) :
    (targets.flatMap fromTarget).Perm (sources.flatMap fromSource) := by
  induction made with
  | nil => exact List.Perm.refl _
  | cons pair _ inductionHypothesis =>
      simp only [List.flatMap_cons]
      apply List.Perm.append
      · exact parts _ List.mem_cons_self _ List.mem_cons_self pair
      · apply inductionHypothesis
        intro element member partner partnerMember
        exact parts element (List.mem_cons_of_mem _ member) partner
          (List.mem_cons_of_mem _ partnerMember)

/-- A longer walk is a caller and a walk from it. -/
theorem Snapshot.callWalks_succ {snapshot : Snapshot} {category : Int} {more : Nat}
    {owner : String} {callers : List Reference} {rest : Reference -> List (List Reference)}
    (answered : snapshot.references owner (.int category) = .ok callers)
    (walked : ∀ caller ∈ callers, snapshot.callWalks category more caller.id = .ok (rest caller)) :
    snapshot.callWalks category (more + 1) owner =
      .ok (callers.flatMap fun caller => (rest caller).map fun walk => caller :: walk) := by
  have longer : (callers.mapM fun caller => do
      let rest <- snapshot.callWalks category more caller.id
      return rest.map fun walk => caller :: walk) =
        .ok (callers.map fun caller => (rest caller).map fun walk => caller :: walk) := by
    apply Outcome.mapM_eq_ok_map
    intro caller member
    rw [walked caller member]
    rfl
  rw [callWalks, answered, Outcome.ok_bind, longer, Outcome.ok_bind, Outcome.pure_eq_ok,
    List.flatMap_def]

theorem callerPaths_perm_callWalks {snapshot : Snapshot} {id : Int} {more : Nat}
    {symbol : Symbol} {row : Row} (asks : row.AsksFor symbol id)
    (opens : row.OpensTo snapshot (3 * (more + 1))) :
    ∃ walks, snapshot.callWalks id more symbol.id = .ok walks ∧
      ((row.callerPaths snapshot more).map (List.map Row.reference)).Perm
        (walks.map (List.map some)) := by
  -- The induction is on the number of further callers; the symbol and the row change with it.
  induction more generalizing symbol row with
  | zero =>
      rcases opens with ⟨rows, opened, _⟩
      rcases exists_callersBelow asks opened with ⟨callers, arranged, answered, order, made⟩
      refine ⟨callers.map fun caller => [caller], ?_, ?_⟩
      · rw [Snapshot.callWalks, answered, Outcome.ok_bind, Outcome.pure_eq_ok]
      · have carried := map_reference_of_callerRows made
        have singles : ((row.callerPaths snapshot 0).map (List.map Row.reference)) =
            (arranged.map some).map fun caller => [caller] := by
          rw [← carried, Row.callerPaths, List.map_map, List.map_map]
          rfl
        rw [singles, List.map_map, List.map_map]
        exact order.map _
  | succ more inductionHypothesis =>
      have deep : row.OpensTo snapshot (3 * (more + 1) + 1 + 2) := opens
      have callersOpen := deep.callersBelow
      rcases opens with ⟨rows, opened, _⟩
      rcases exists_callersBelow asks opened with ⟨callers, arranged, answered, order, made⟩
      -- Every listed caller has a row, and below it the walks that start at the caller.
      have continued : ∀ caller ∈ callers, ∃ walks,
          snapshot.callWalks id more caller.id = .ok walks ∧
            (((recursiveRow (.ofEntry (callerName, id)) caller).callerPaths snapshot more).map
              (List.map Row.reference)).Perm (walks.map (List.map some)) := by
        intro caller member
        rcases Outcome.exists_of_mem_left made (order.mem_iff.mpr member) with
          ⟨shown, shownMember, madeFrom⟩
        have again := (callersOpen shown shownMember).recursive madeFrom
        exact inductionHypothesis (Row.asksFor_recursiveRow caller id) again.2
      choose! rest walked same using continued
      refine ⟨_, Snapshot.callWalks_succ answered walked, ?_⟩
      rw [Row.callerPaths, List.map_flatMap, List.map_flatMap]
      refine List.Perm.trans ?_ (order.flatMap_right _)
      apply flatMap_perm_of_forall₂ made
      intro caller member shown shownMember madeFrom
      rw [((callersOpen shown shownMember).recursive madeFrom).1, List.flatMap_singleton]
      have prolonged := (same caller (order.mem_iff.mp member)).map fun walk => some caller :: walk
      simp only [List.map_map, Function.comp_def, List.map_cons,
        callerRow_reference madeFrom] at prolonged ⊢
      exact prolonged

/-! ## Call sites below the last caller -/

theorem listsCalls_of_callsOf {snapshot : Snapshot} {caller : Reference}
    {calls : Option (List Reference)} (found : callsOf snapshot caller = .ok calls) :
    snapshot.ListsCalls caller.id (calls.getD []) := by
  unfold callsOf at found
  rcases Outcome.bind_eq_ok_iff.mp found with ⟨known, listed, chosen⟩
  refine ⟨known, listed, ?_⟩
  split at chosen
  · rename_i absent
    cases chosen
    refine Or.inr ⟨?_, rfl⟩
    intro entry member same
    exact List.find?_eq_none.mp absent entry member (by simp [same])
  · rename_i entry present
    rcases Outcome.bind_pure_eq_ok_iff.mp chosen with ⟨references, answered, rfl⟩
    have named : entry.1 = callsName := by simpa using List.find?_some present
    refine Or.inl ⟨entry.2, ?_, answered⟩
    rw [← named]
    exact List.mem_of_find?_eq_some present

/-- The call sites of a caller are found for every focus as soon as its calls are. -/
theorem exists_callSiteRows {snapshot : Snapshot} {caller : Reference}
    {calls : Option (List Reference)} (found : callsOf snapshot caller = .ok calls)
    (symbol : Symbol) : ∃ sites, callSiteRows snapshot (.symbol symbol) caller = .ok sites := by
  have isLocated : ∀ call ∈ calls.getD [], call.IsLocated := by
    rcases listsCalls_of_callsOf found with ⟨_, _, ⟨_, _, answered⟩ | ⟨_, absent⟩⟩
    · exact Snapshot.isLocated_of_references answered
    · rw [absent]
      exact nofun
  obtain ⟨sites, made⟩ : ∃ sites,
      ((calls.getD []).filter fun call => call.nameHash == symbol.nameHash).mapM
        (fun call => Row.leaf call (some ("call-" ++ caller.id ++ "-" ++ call.id))) =
          .ok sites := by
    apply Outcome.exists_mapM_eq_ok
    intro call member
    exact Row.exists_leaf (isLocated call (List.mem_filter.mp member).1) _
  exact ⟨sites, callSiteRows_eq_ok_iff.mpr ⟨calls, found, Outcome.mapM_eq_ok_iff.mp made⟩⟩

theorem showsCallsTo_of_callerRow {snapshot : Snapshot} {symbol : Symbol} {category : Category}
    {caller : Reference} {row : Row} {rows : List Row}
    (made : callerRow (.symbol symbol) category caller = .ok row)
    (opened : row.children snapshot = .ok rows) :
    row.ShowsCallsTo snapshot symbol.nameHash := by
  have chain := opened
  rw [callerRow_children made] at chain
  rcases callChainRows_eq_ok_iff.mp chain with ⟨sites, found, rfl⟩
  have leaves := isLeaf_of_callSiteRows found
  rcases callSiteRows_eq_ok_iff.mp found with ⟨calls, listed, sitesMade⟩
  exact ⟨caller, _, _, sites, callerRow_reference made, listsCalls_of_callsOf listed, opened, rfl,
    fun site member => (leaves site member).shape.1, map_reference_of_leaves sitesMade⟩

/-- A chain that is longer by a first caller has the hash of the chain that begins at it. -/
theorem chainHash_cons (symbol : Symbol) (caller : Reference) (chain : List Reference) :
    chainHash symbol (caller :: chain) = chainHash (.ofReference caller) chain := by
  unfold chainHash
  rw [List.getLast?_cons]
  cases chain.getLast? with
  | none => rfl
  | some last => rfl

theorem showsCallsTo_of_callerPaths {snapshot : Snapshot} {id : Int} {more : Nat}
    {symbol : Symbol} {row : Row} (asks : row.AsksFor symbol id)
    (opens : row.OpensTo snapshot (3 * (more + 1))) :
    ∀ path ∈ row.callerPaths snapshot more, ∃ earlier chain last,
      path = earlier ++ [last] ∧ earlier.map Row.reference = chain.map some ∧
        last.ShowsCallsTo snapshot (chainHash symbol chain) := by
  induction more generalizing symbol row with
  | zero =>
      have deep : row.OpensTo snapshot (1 + 2) := opens
      intro path member
      rcases List.mem_map.mp member with ⟨shown, shownMember, rfl⟩
      rcases opens with ⟨rows, opened, _⟩
      rcases exists_callersBelow asks opened with ⟨_, _, _, _, made⟩
      rcases Outcome.exists_of_mem_right made shownMember with ⟨caller, _, madeFrom⟩
      rcases deep.callersBelow shown shownMember with ⟨below, shownOpened, _⟩
      exact ⟨[], [], shown, rfl, rfl, showsCallsTo_of_callerRow madeFrom shownOpened⟩
  | succ more inductionHypothesis =>
      have deep : row.OpensTo snapshot (3 * (more + 1) + 1 + 2) := opens
      intro path member
      rcases List.mem_flatMap.mp member with ⟨shown, shownMember, below⟩
      rcases opens with ⟨rows, opened, _⟩
      rcases exists_callersBelow asks opened with ⟨_, _, _, _, made⟩
      rcases Outcome.exists_of_mem_right made shownMember with ⟨caller, _, madeFrom⟩
      have again := (deep.callersBelow shown shownMember).recursive madeFrom
      rw [again.1, List.flatMap_singleton] at below
      rcases List.mem_map.mp below with ⟨rest, restMember, rfl⟩
      rcases inductionHypothesis (Row.asksFor_recursiveRow caller id) again.2 rest restMember with
        ⟨earlier, chain, last, rfl, carried, shows⟩
      refine ⟨shown :: earlier, caller :: chain, last, rfl, ?_, ?_⟩
      · rw [List.map_cons, List.map_cons, callerRow_reference madeFrom, carried]
      · rw [chainHash_cons]
        exact shows

/-! ## The chains of callers below a symbol -/

/-- As far as the rows below the callers of a symbol can be opened, the chains of references on the
paths through caller rows are the walks of the snapshot, each as often as it is listed, and the last
caller of each path shows exactly its calls to the one before it. -/
theorem caller_paths_are_call_walks {snapshot : Snapshot} {symbol : Symbol}
    {known : List (String × Int)} {id : Int}
    (listed : snapshot.categories symbol.id = .ok known) (member : (callerName, id) ∈ known) :
    ∃ tops row, focusRows snapshot (.symbol symbol) = .ok tops ∧ row ∈ tops ∧
      row = symbolCategoryRow symbol (callerName, id) ∧
      ∀ more, row.OpensTo snapshot (3 * (more + 1)) ->
        (∃ walks, snapshot.callWalks id more symbol.id = .ok walks ∧
          ((row.callerPaths snapshot more).map (List.map Row.reference)).Perm
            (walks.map (List.map some))) ∧
        ∀ path ∈ row.callerPaths snapshot more, ∃ earlier chain last,
          path = earlier ++ [last] ∧ earlier.map Row.reference = chain.map some ∧
            last.ShowsCallsTo snapshot (chainHash symbol chain) := by
  rcases exists_symbolCategoryRow listed member with ⟨tops, shown, topMember⟩
  refine ⟨tops, _, shown, topMember, rfl, ?_⟩
  intro more opens
  have asks := Row.asksFor_symbolCategoryRow symbol id
  exact ⟨callerPaths_perm_callWalks asks opens, showsCallsTo_of_callerPaths asks opens⟩

namespace MutualCalls

/-- A reference payload. -/
def payload (id file : String) (hash : Int) : Value :=
  .object [("id", .text id), ("range", .object [("file", .text file)]),
    ("mangled_name_hash", .int hash)]

/-- The record of a symbol, from its callers and, if it lists any, its calls. -/
def record (callers : List Value) (calls : Option (List Value)) : Value :=
  .object [
    ("reference_types", .object ((callerName, .int 0) ::
      (calls.map fun _ => (callsName, .int 1)).toList)),
    ("references", .object (("0", .list callers) ::
      (calls.map fun calls => ("1", .list calls)).toList))]

/-- The symbol `s` is called twice by `a` and once by `b`, which lists no calls of its own; `a`
lies in another file than `b` and is called by both. -/
def snapshot : Snapshot where
  members := [
    ("files", .object [("f", .object []), ("g", .object [])]),
    ("symbols", .object [
      ("s", record [a, b, a] (some [a])),
      ("a", record [s, b] (some [s, b, s])),
      ("b", record [a] none)])]
where
  s := payload "s" "f" 7
  a := payload "a" "f" 5
  b := payload "b" "g" 9

/-- The symbol, as a host names it. -/
def symbol : Symbol where
  id := "s"
  range := none
  displayValue := "s"
  tags := []
  nameHash := 7

/-- There are five walks of two callers, two of them twice.  The tree lists them file by file. -/
theorem caller_paths_of_mutual_calls :
    snapshot.categories symbol.id = .ok [(callerName, 0), (callsName, 1)] ∧
      (snapshot.callWalks 0 1 symbol.id).map (List.map (List.map Reference.id)) =
        .ok [["a", "s"], ["a", "b"], ["b", "a"], ["a", "s"], ["a", "b"]] ∧
      ∃ row walks, row.OpensTo snapshot 6 ∧ row = symbolCategoryRow symbol (callerName, 0) ∧
        snapshot.callWalks 0 1 symbol.id = .ok walks ∧
        ((row.callerPaths snapshot 1).map (List.map Row.reference)).Perm
          (walks.map (List.map some)) ∧
        ∀ path ∈ row.callerPaths snapshot 1, ∃ earlier chain last,
          path = earlier ++ [last] ∧ earlier.map Row.reference = chain.map some ∧
            last.ShowsCallsTo snapshot (chainHash symbol chain) := by
  have listed : snapshot.categories symbol.id = .ok [(callerName, 0), (callsName, 1)] := rfl
  have opens : (symbolCategoryRow symbol (callerName, 0)).OpensTo snapshot 6 := by
    decide +kernel
  rcases caller_paths_are_call_walks listed List.mem_cons_self with
    ⟨tops, row, shown, topMember, rfl, agree⟩
  rcases agree 1 opens with ⟨⟨walks, walked, same⟩, shows⟩
  exact ⟨listed, rfl, _, walks, opens, rfl, walked, same, shows⟩

end MutualCalls

end RefTree
