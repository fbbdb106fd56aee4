import RefTree.Proofs.Caller.Walks
import RefTree.Proofs.Listing.Preorder

namespace RefTree

/-!
# What a focus contributes to its tree

A symbol that a tree is opened on is kept in the sources of many rows.  Yet it is only ever asked
for its id, and for its hash where the calls of a caller are compared with it.  Below the row that
repeats the category for a caller, the caller has taken its place.

Two symbols with one id are therefore compared by a relation of rows that show the same and differ
at most in which of the two their source holds.  Opening two such rows gives such rows again; only
for callers does this need the hashes to be the same.
-/

/-! ## Trees that show the same -/

namespace Tree

mutual

/-- Decide whether two trees show the same: the same rows, opened alike, and the same faults. -/
def sameAs : Tree -> Tree -> Bool
  | .closed left, .closed right => left.sameAs right
  | .opened left lefts, .opened right rights => left.sameAs right && sameTrees lefts rights
  | .failed left fault, .failed right other => left.sameAs right && fault == other
  | _, _ => false

/-- Decide whether two lists of trees show the same. -/
def sameTrees : List Tree -> List Tree -> Bool
  | [], [] => true
  | left :: lefts, right :: rights => left.sameAs right && sameTrees lefts rights
  | _, _ => false

end

/-- The trees below a caller that are no call sites. -/
def besideCallSites (trees : List Tree) : List Tree :=
  trees.filter fun tree => tree.row.kind != .reference

mutual

/-- Leave out the call sites below the first callers.  The row that repeats the category for such a
caller is kept with all that lies below it. -/
def withoutCallSites : Tree -> Tree
  | .closed row => .closed row
  | .opened row children =>
      if row.kind = .caller then .opened row (besideCallSites children)
      else .opened row (withoutCallSitesAll children)
  | .failed row fault => .failed row fault

def withoutCallSitesAll : List Tree -> List Tree
  | [] => []
  | tree :: rest => tree.withoutCallSites :: withoutCallSitesAll rest

end

end Tree

theorem Row.sameAs_iff {left right : Row} :
    left.sameAs right = true ↔
      left.id = right.id ∧ left.label = right.label ∧ left.style = right.style ∧
        left.expandable = right.expandable ∧ left.kind = right.kind ∧
        left.reference = right.reference := by
  simp only [Row.sameAs, Bool.and_eq_true, beq_iff_eq, and_assoc]

@[simp]
theorem Row.sameAs_self (row : Row) : row.sameAs row = true :=
  sameAs_iff.mpr ⟨rfl, rfl, rfl, rfl, rfl, rfl⟩

namespace Tree

mutual

@[simp]
theorem sameAs_self : (tree : Tree) -> tree.sameAs tree = true
  | .closed row => by simp [sameAs]
  | .opened row children => by simp [sameAs, sameTrees_self children]
  | .failed row fault => by simp [sameAs]

@[simp]
theorem sameTrees_self : (trees : List Tree) -> sameTrees trees trees = true
  | [] => by simp [sameTrees]
  | tree :: rest => by simp [sameTrees, sameAs_self tree, sameTrees_self rest]

end

theorem sameTrees_of_forall₂ {lefts rights : List Tree}
    (same : List.Forall₂ (fun left right => left.sameAs right = true) lefts rights) :
    sameTrees lefts rights = true := by
  induction same with
  | nil => rfl
  | cons first _ inductionHypothesis => simp [sameTrees, first, inductionHypothesis]

theorem withoutCallSitesAll_eq_map (trees : List Tree) :
    withoutCallSitesAll trees = trees.map withoutCallSites := by
  induction trees with
  | nil => rfl
  | cons tree rest inductionHypothesis =>
      rw [withoutCallSitesAll, inductionHypothesis, List.map_cons]

end Tree

/-! ## Rows that differ in the focus they hold -/

namespace Row

/-- Rows that are the same, or were made alike for two symbols. -/
inductive Twins (first second : Symbol) : Row -> Row -> Prop
  | same (row : Row) : Twins first second row row
  | category (entry : String × Int) :
      Twins first second (symbolCategoryRow first entry) (symbolCategoryRow second entry)
  | fileGroup {snapshot : Snapshot} {entry : String × Int} {group : FileGroup} {left right : Row}
      (leftMade : fileGroupRow snapshot (.symbol first) (.ofEntry entry) group = .ok left)
      (rightMade : fileGroupRow snapshot (.symbol second) (.ofEntry entry) group = .ok right) :
      Twins first second left right
  | caller {entry : String × Int} {reference : Reference} {left right : Row}
      (leftMade : callerRow (.symbol first) (.ofEntry entry) reference = .ok left)
      (rightMade : callerRow (.symbol second) (.ofEntry entry) reference = .ok right) :
      Twins first second left right

theorem forall₂_twins_same (first second : Symbol) (rows : List Row) :
    List.Forall₂ (Twins first second) rows rows :=
  List.forall₂_same.mpr fun row _ => .same row

end Row

section Twins

variable {first second : Symbol}

theorem fileGroupRow_twins (snapshot : Snapshot) (entry : String × Int) (group : FileGroup) :
    Outcome.Agree (Row.Twins first second)
      (fileGroupRow snapshot (.symbol first) (.ofEntry entry) group)
      (fileGroupRow snapshot (.symbol second) (.ofEntry entry) group) := by
  apply (Outcome.Agree.refl (snapshot.file group.file)).bind
  rintro file _ ⟨rfl, found⟩
  apply Outcome.Agree.ok
  apply Row.Twins.fileGroup
  · exact fileGroupRow_eq_ok_iff.mpr ⟨file, found, rfl⟩
  · exact fileGroupRow_eq_ok_iff.mpr ⟨file, found, rfl⟩

theorem callerRow_twins (entry : String × Int) (caller : Reference) :
    Outcome.Agree (Row.Twins first second)
      (callerRow (.symbol first) (.ofEntry entry) caller)
      (callerRow (.symbol second) (.ofEntry entry) caller) := by
  apply (Outcome.Agree.refl caller.label).bind
  rintro label _ ⟨rfl, found⟩
  apply Outcome.Agree.ok
  apply Row.Twins.caller
  · exact callerRow_eq_ok_iff.mpr ⟨label, found, rfl⟩
  · exact callerRow_eq_ok_iff.mpr ⟨label, found, rfl⟩

/-- What lies below a caller depends on the hash of the focus and on nothing else of it. -/
theorem callChainRows_eq_of_nameHash (snapshot : Snapshot) (category : Category)
    (caller : Reference) (sameHash : first.nameHash = second.nameHash) :
    callChainRows snapshot (.symbol first) category caller =
      callChainRows snapshot (.symbol second) category caller := by
  unfold callChainRows callSiteRows Focus.id
  simp only [callsTo_symbol, sameHash, Outcome.ok_bind]

variable (sameId : first.id = second.id)
include sameId

theorem Row.Twins.sameAs {left right : Row} (twins : Twins first second left right) :
    left.sameAs right = true := by
  cases twins with
  | same row => exact left.sameAs_self
  | category entry =>
      apply Row.sameAs_iff.mpr
      simp only [symbolCategoryRow, categoryRow, sameId, and_self]
  | fileGroup leftMade rightMade =>
      rcases fileGroupRow_eq_ok_iff.mp leftMade with ⟨file, found, rfl⟩
      rcases fileGroupRow_eq_ok_iff.mp rightMade with ⟨other, again, rfl⟩
      rw [found] at again
      cases again
      apply Row.sameAs_iff.mpr
      simp only [sameId, and_self]
  | caller leftMade rightMade =>
      rcases callerRow_eq_ok_iff.mp leftMade with ⟨label, found, rfl⟩
      rcases callerRow_eq_ok_iff.mp rightMade with ⟨other, again, rfl⟩
      rw [found] at again
      cases again
      exact Row.sameAs_iff.mpr ⟨rfl, rfl, rfl, rfl, rfl, rfl⟩

theorem categoryRows_twins (snapshot : Snapshot) (entry : String × Int) :
    Outcome.Agree (List.Forall₂ (Row.Twins first second))
      (categoryRows snapshot (.symbol first) (.ofEntry entry))
      (categoryRows snapshot (.symbol second) (.ofEntry entry)) := by
  unfold categoryRows Focus.id
  simp only [Outcome.ok_bind, sameId]
  apply (Outcome.Agree.refl _).bind
  rintro references _ ⟨rfl, _⟩
  split
  · apply (Outcome.Agree.refl _).bind
    rintro groups _ ⟨rfl, _⟩
    apply Outcome.Agree.mapM (List.forall₂_same.mpr fun group _ => rfl)
    rintro group _ rfl
    exact fileGroupRow_twins snapshot entry group
  · exact Outcome.Agree.refl_of fun rows _ => Row.forall₂_twins_same first second rows

theorem fileGroupRows_twins (entry : String × Int) (group : FileGroup) :
    Outcome.Agree (List.Forall₂ (Row.Twins first second))
      (fileGroupRows (.symbol first) (.ofEntry entry)
        (first.id ++ "-" ++ (Category.ofEntry entry).id.plain ++ "-" ++ group.file) group.members)
      (fileGroupRows (.symbol second) (.ofEntry entry)
        (second.id ++ "-" ++ (Category.ofEntry entry).id.plain ++ "-" ++ group.file)
        group.members) := by
  by_cases named : (Category.ofEntry entry).name = callerName
  · rw [fileGroupRows_caller _ _ _ _ named, fileGroupRows_caller _ _ _ _ named]
    apply Outcome.Agree.mapM (List.forall₂_same.mpr fun caller _ => rfl)
    rintro caller _ rfl
    exact callerRow_twins entry caller
  · rw [fileGroupRows_leaf _ _ _ _ named, fileGroupRows_leaf _ _ _ _ named, sameId]
    exact Outcome.Agree.refl_of fun rows _ => Row.forall₂_twins_same first second rows

/-- Opening twins gives twins, or the same fault.  For callers the hashes must be the same. -/
theorem Row.Twins.children_agree {left right : Row} (twins : Twins first second left right)
    (alike : left.kind = .caller -> first.nameHash = second.nameHash) (snapshot : Snapshot) :
    Outcome.Agree (List.Forall₂ (Twins first second))
      (left.children snapshot) (right.children snapshot) := by
  cases twins with
  | same row => exact Outcome.Agree.refl_of fun rows _ => forall₂_twins_same first second rows
  | category entry => exact categoryRows_twins sameId snapshot entry
  | fileGroup leftMade rightMade =>
      rw [fileGroupRow_children leftMade, fileGroupRow_children rightMade]
      exact fileGroupRows_twins sameId _ _
  | caller leftMade rightMade =>
      have sameHash := alike (callerRow_kind leftMade)
      rw [callerRow_children leftMade, callerRow_children rightMade,
        callChainRows_eq_of_nameHash snapshot _ _ sameHash]
      exact Outcome.Agree.refl_of fun rows _ => forall₂_twins_same first second rows

theorem focusRows_twins (snapshot : Snapshot) :
    Outcome.Agree (List.Forall₂ (Row.Twins first second))
      (focusRows snapshot (.symbol first)) (focusRows snapshot (.symbol second)) := by
  change Outcome.Agree _ (symbolRows snapshot first) (symbolRows snapshot second)
  unfold symbolRows
  rw [sameId]
  apply (Outcome.Agree.refl _).bind
  rintro properties _ ⟨rfl, _⟩
  apply (Outcome.Agree.refl _).bind
  rintro entries _ ⟨rfl, _⟩
  apply Outcome.Agree.ok
  rw [List.map_map, List.map_map]
  apply List.rel_append
  · have sameRow : propertyRow first = propertyRow second := by
      funext property
      simp only [propertyRow, sameId]
    rw [sameRow]
    exact Row.forall₂_twins_same first second _
  · rw [List.forall₂_map_left_iff, List.forall₂_map_right_iff]
    apply List.forall₂_same.mpr
    intro entry _
    have twins : Row.Twins first second (symbolCategoryRow first entry)
        (symbolCategoryRow second entry) := .category entry
    simp only [symbolCategoryRow, sameId] at twins
    exact twins

end Twins

/-! ## Unfolding twins -/

namespace Tree

/-- The tree of a row has this row at its top. -/
theorem row_of_unfold {snapshot : Snapshot} {levels : Nat} {row : Row} {tree : Tree}
    (unfolded : unfold snapshot levels row = .ok tree) : tree.row = row := by
  have bound : levels = ((levels + 1 : Int) - 1 - (0 : Nat)).toNat := by omega
  exact (isUnfolding_of_unfold bound unfolded).1

/-- Rows whose children unfold alike unfold alike. -/
theorem unfold_agree {snapshot : Snapshot} {levels : Nat} {left right : Row}
    {same : Tree -> Tree -> Prop} {rowsRelated : List Row -> List Row -> Prop}
    {below : List Tree -> List Tree -> Prop} (expandable : left.expandable = true)
    (alsoExpandable : right.expandable = true)
    (children : Outcome.Agree rowsRelated (left.children snapshot) (right.children snapshot))
    (unfolded : ∀ rows others, rowsRelated rows others ->
      Outcome.Agree below (rows.mapM (unfold snapshot levels))
        (others.mapM (unfold snapshot levels)))
    (opened : ∀ trees others, below trees others ->
      same (.opened left trees) (.opened right others))
    (failed : ∀ fault, same (.failed left fault) (.failed right fault)) :
    Outcome.Agree same (unfold snapshot (levels + 1) left)
      (unfold snapshot (levels + 1) right) := by
  rw [unfold_of_expandable expandable, unfold_of_expandable alsoExpandable]
  -- Only the two outcomes of opening matter from here on, not the rows they come from.
  revert children
  generalize left.children snapshot = leftChildren
  generalize right.children snapshot = rightChildren
  intro children
  cases children with
  | ok related =>
      apply (unfolded _ _ related).bind
      intro trees others alike
      exact .ok (opened trees others alike)
  | error fault =>
      cases shown : fault.isTreeFault with
      | true =>
          simp only [shown, if_true]
          exact .ok (failed fault)
      | false =>
          simp only [shown]
          exact .error fault

end Tree

section Twins

variable {first second : Symbol} (sameId : first.id = second.id)
include sameId

/-- A relation of trees that twins unfold to need only be kept by opening: it holds one level deeper
if it holds for the trees of twins, and passes from the children to their parents. -/
theorem Row.Twins.unfold_succ {snapshot : Snapshot} {levels : Nat} {same : Tree -> Tree -> Prop}
    (each : ∀ {left right : Row}, Twins first second left right ->
      Outcome.Agree same (Tree.unfold snapshot levels left) (Tree.unfold snapshot levels right))
    {left right : Row} (twins : Twins first second left right)
    (alike : left.kind = .caller -> first.nameHash = second.nameHash)
    (closed : same (.closed left) (.closed right))
    (opened : ∀ trees others, List.Forall₂ same trees others ->
      same (.opened left trees) (.opened right others))
    (failed : ∀ fault, same (.failed left fault) (.failed right fault)) :
    Outcome.Agree same (Tree.unfold snapshot (levels + 1) left)
      (Tree.unfold snapshot (levels + 1) right) := by
  have sameExpandable := (Row.sameAs_iff.mp (twins.sameAs sameId)).2.2.2.1
  cases expandable : left.expandable with
  | false =>
      rw [Tree.unfold_of_shut expandable, Tree.unfold_of_shut (sameExpandable ▸ expandable)]
      exact .ok closed
  | true =>
      have children := twins.children_agree sameId alike snapshot
      apply Tree.unfold_agree expandable (sameExpandable ▸ expandable) children _ opened failed
      intro rows others rowTwins
      exact Outcome.Agree.mapM rowTwins fun row other pair => each pair

/-- Twins unfold to trees that show the same, if the hashes are the same. -/
theorem Row.Twins.unfold_sameAs (sameHash : first.nameHash = second.nameHash)
    (snapshot : Snapshot) (levels : Nat) {left right : Row}
    (twins : Twins first second left right) :
    Outcome.Agree (fun tree other => tree.sameAs other = true)
      (Tree.unfold snapshot levels left) (Tree.unfold snapshot levels right) := by
  have alike := twins.sameAs sameId
  induction levels generalizing left right with
  | zero => exact .ok alike
  | succ levels inductionHypothesis =>
      apply twins.unfold_succ sameId _ (fun _ => sameHash) alike
      · intro trees others below
        simp only [Tree.sameAs, alike, Tree.sameTrees_of_forall₂ below, Bool.and_self]
      · intro fault
        simp only [Tree.sameAs, alike, beq_self_eq_true, Bool.and_self]
      · intro left right pair
        exact inductionHypothesis pair (pair.sameAs sameId)

end Twins

/-! ## Callers and the hash -/

/-- Rows that begin with the same repeated category and go on with leaves. -/
def SameChain (category : Category) (caller : Reference) (rows others : List Row) : Prop :=
  ∃ sites otherSites, rows = recursiveRow category caller :: sites ∧
    others = recursiveRow category caller :: otherSites ∧
    (∀ site ∈ sites, site.IsLeaf) ∧ ∀ site ∈ otherSites, site.IsLeaf

/-- Below a caller, two symbols can change nothing but the call sites. -/
theorem callChainRows_agree (snapshot : Snapshot) (category : Category) (caller : Reference)
    (first second : Symbol) :
    Outcome.Agree (SameChain category caller)
      (callChainRows snapshot (.symbol first) category caller)
      (callChainRows snapshot (.symbol second) category caller) := by
  cases found : callsOf snapshot caller with
  | error fault =>
      have failed : ∀ symbol,
          callChainRows snapshot (.symbol symbol) category caller = .error fault := by
        intro symbol
        unfold callChainRows callSiteRows
        rw [found]
        rfl
      rw [failed, failed]
      exact .error fault
  | ok calls =>
      rcases exists_callSiteRows found first with ⟨sites, shown⟩
      rcases exists_callSiteRows found second with ⟨otherSites, otherShown⟩
      rw [callChainRows_eq_ok_iff.mpr ⟨sites, shown, rfl⟩,
        callChainRows_eq_ok_iff.mpr ⟨otherSites, otherShown, rfl⟩]
      exact .ok ⟨sites, otherSites, rfl, rfl, isLeaf_of_callSiteRows shown,
        isLeaf_of_callSiteRows otherShown⟩

namespace Tree

theorem mapM_unfold_leaves {sites : List Row} (leaves : ∀ site ∈ sites, site.IsLeaf)
    (snapshot : Snapshot) (levels : Nat) :
    sites.mapM (unfold snapshot levels) = .ok (sites.map .closed) := by
  apply Outcome.mapM_eq_ok_map
  intro site member
  exact unfold_of_shut (leaves site member).shape.2.1 snapshot levels

theorem besideCallSites_chain {category : Category} {caller : Reference} {tree : Tree}
    {sites : List Row} (again : tree.row = recursiveRow category caller)
    (leaves : ∀ site ∈ sites, site.IsLeaf) :
    besideCallSites (tree :: sites.map .closed) = [tree] := by
  have others : besideCallSites (sites.map .closed) = [] := by
    apply List.filter_eq_nil_iff.mpr
    intro other member
    rcases List.mem_map.mp member with ⟨site, belongs, rfl⟩
    simp [row, (leaves site belongs).shape.1]
  have kept : (tree.row.kind != .reference) = true := by
    rw [again]
    rfl
  unfold besideCallSites at others ⊢
  rw [List.filter_cons, if_pos kept, others]

end Tree

/-- Besides the call sites, what lies below a caller unfolds to the same trees. -/
theorem SameChain.unfold_agree {category : Category} {caller : Reference}
    {rows others : List Row} (chain : SameChain category caller rows others)
    (snapshot : Snapshot) (levels : Nat) :
    Outcome.Agree
      (fun trees otherTrees => Tree.besideCallSites trees = Tree.besideCallSites otherTrees)
      (rows.mapM (Tree.unfold snapshot levels)) (others.mapM (Tree.unfold snapshot levels)) := by
  rcases chain with ⟨sites, otherSites, rfl, rfl, leaves, otherLeaves⟩
  rw [List.mapM_cons, List.mapM_cons, Tree.mapM_unfold_leaves leaves,
    Tree.mapM_unfold_leaves otherLeaves]
  cases unfolded : Tree.unfold snapshot levels (recursiveRow category caller) with
  | error fault => exact .error fault
  | ok tree =>
      have again := Tree.row_of_unfold unfolded
      apply Outcome.Agree.ok
      rw [Tree.besideCallSites_chain again leaves, Tree.besideCallSites_chain again otherLeaves]

section Twins

variable {first second : Symbol} (sameId : first.id = second.id)
include sameId

/-- Below twins that are callers, only the call sites can differ. -/
theorem Row.Twins.unfold_caller (snapshot : Snapshot) (levels : Nat) {left right : Row}
    (twins : Twins first second left right) (isCaller : left.kind = .caller) :
    Outcome.Agree
      (fun tree other => tree.withoutCallSites.sameAs other.withoutCallSites = true)
      (Tree.unfold snapshot levels left) (Tree.unfold snapshot levels right) := by
  have alike := twins.sameAs sameId
  cases twins with
  | same row => exact Outcome.Agree.refl_of fun tree _ => tree.withoutCallSites.sameAs_self
  | category entry => cases isCaller
  | fileGroup leftMade rightMade =>
      rw [fileGroupRow_kind leftMade] at isCaller
      cases isCaller
  | @caller entry caller left right leftMade rightMade =>
      cases levels with
      | zero => exact .ok alike
      | succ levels =>
          have alsoCaller := callerRow_kind rightMade
          have chains := callChainRows_agree snapshot (.ofEntry entry) caller first second
          rw [← callerRow_children leftMade, ← callerRow_children rightMade] at chains
          apply Tree.unfold_agree (callerRow_expandable leftMade) (callerRow_expandable rightMade)
            chains fun rows others chain => chain.unfold_agree snapshot levels
          · intro trees others beside
            simp only [Tree.withoutCallSites, isCaller, alsoCaller, if_true, Tree.sameAs, alike,
              beside, Tree.sameTrees_self, Bool.and_self]
          · intro fault
            simp only [Tree.withoutCallSites, Tree.sameAs, alike, beq_self_eq_true, Bool.and_self]

/-- Twins unfold to trees that show the same besides the call sites below the first callers. -/
theorem Row.Twins.unfold_withoutCallSites (snapshot : Snapshot) (levels : Nat)
    {left right : Row} (twins : Twins first second left right) :
    Outcome.Agree
      (fun tree other => tree.withoutCallSites.sameAs other.withoutCallSites = true)
      (Tree.unfold snapshot levels left) (Tree.unfold snapshot levels right) := by
  have alike := twins.sameAs sameId
  have sameKind := (Row.sameAs_iff.mp alike).2.2.2.2.1
  induction levels generalizing left right with
  | zero => exact .ok alike
  | succ levels inductionHypothesis =>
      -- Callers need no induction: what remains below them is the same on both sides.
      by_cases isCaller : left.kind = .caller
      · exact twins.unfold_caller sameId snapshot (levels + 1) isCaller
      · have notCaller : right.kind ≠ .caller := sameKind ▸ isCaller
        apply twins.unfold_succ sameId _ (fun kind => absurd kind isCaller) alike
        · intro trees others below
          have belowSame := Tree.sameTrees_of_forall₂
            (List.forall₂_map_left_iff.mpr (List.forall₂_map_right_iff.mpr below))
          simp only [Tree.withoutCallSites, isCaller, notCaller, if_false, Tree.sameAs, alike,
            Tree.withoutCallSitesAll_eq_map, belowSame, Bool.and_self]
        · intro fault
          simp only [Tree.withoutCallSites, Tree.sameAs, alike, beq_self_eq_true, Bool.and_self]
        · intro left right pair
          have pairAlike := pair.sameAs sameId
          exact inductionHypothesis pair pairAlike (Row.sameAs_iff.mp pairAlike).2.2.2.2.1

end Twins

/-! ## Two symbols with one id -/

/-- The tree of a symbol, from its top rows down to a depth. -/
def symbolTrees (snapshot : Snapshot) (depth : Int) (symbol : Symbol) :
    Except Fault (List Tree) := do
  let tops <- focusRows snapshot (.symbol symbol)
  Tree.unfoldRows snapshot depth tops

theorem sameRows_of_forall₂ {lefts rights : List Row}
    (same : List.Forall₂ (fun left right => left.sameAs right = true) lefts rights) :
    Row.sameRows lefts rights = true := by
  induction same with
  | nil => rfl
  | cons first _ inductionHypothesis => simp [Row.sameRows, first, inductionHypothesis]

/-- Two symbols with one id have top rows that show the same.  If they also have one hash, their
trees show the same at every depth, with the same faults, whatever else they hold.  Otherwise the
trees still show the same once the call sites below the first callers are left out. -/
theorem focus_counts_by_id_and_hash (snapshot : Snapshot) {first second : Symbol}
    (sameId : first.id = second.id) :
    Outcome.Agree (fun rows others => Row.sameRows rows others = true)
      (focusRows snapshot (.symbol first)) (focusRows snapshot (.symbol second)) ∧
    ∀ depth : Int,
      (first.nameHash = second.nameHash ->
        Outcome.Agree (fun trees others => Tree.sameTrees trees others = true)
          (symbolTrees snapshot depth first) (symbolTrees snapshot depth second)) ∧
      Outcome.Agree
        (fun trees others => Tree.sameTrees (Tree.withoutCallSitesAll trees)
          (Tree.withoutCallSitesAll others) = true)
        (symbolTrees snapshot depth first) (symbolTrees snapshot depth second) := by
  have tops := focusRows_twins sameId snapshot
  refine ⟨?_, fun depth => ⟨?_, ?_⟩⟩
  · apply tops.mono
    intro rows others twins
    exact sameRows_of_forall₂ (twins.imp fun _ _ pair => pair.sameAs sameId)
  · intro sameHash
    apply tops.bind
    intro rows others twins
    have trees := Outcome.Agree.mapM twins fun _ _ pair =>
      pair.unfold_sameAs sameId sameHash snapshot (depth - 1).toNat
    exact trees.mono fun _ _ same => Tree.sameTrees_of_forall₂ same
  · apply tops.bind
    intro rows others twins
    have trees := Outcome.Agree.mapM twins fun _ _ pair =>
      pair.unfold_withoutCallSites sameId snapshot (depth - 1).toNat
    apply trees.mono
    intro made otherMade same
    rw [Tree.withoutCallSitesAll_eq_map, Tree.withoutCallSitesAll_eq_map]
    exact Tree.sameTrees_of_forall₂
      (List.forall₂_map_left_iff.mpr (List.forall₂_map_right_iff.mpr same))

namespace OneId

open Document

def call (id : String) (hash : Int) : Value :=
  .object [("id", .text id), ("range", .object [("file", .text "f")]),
    ("mangled_name_hash", .int hash)]

/-- The symbol `s` is called by `c`, which makes two calls to targets of different hashes. -/
def snapshot : Snapshot where
  members := [
    ("files", .object [("f", .object [])]),
    ("symbols", .object [
      ("s", .object [
        ("properties", .object [("Kind", .text "function")]),
        ("reference_types", .object [(callerName, .int 0)]),
        ("references", .object [("0", .list [call "c" 5])])]),
      ("c", .object [
        ("reference_types", .object [(callsName, .int 1)]),
        ("references", .object [("1", .list [call "s" 1, call "t" 2])])])])]

def symbol : Symbol where
  id := "s"
  range := none
  displayValue := "s"
  tags := []
  nameHash := 1

/-- The same symbol with all but its id and its hash changed. -/
def restyled : Symbol where
  id := "s"
  range := some ⟨"g", 3, 4⟩
  displayValue := "t"
  tags := ["private"]
  nameHash := 1

/-- The same symbol with another hash. -/
def rehashed : Symbol :=
  { symbol with nameHash := 2 }

/-- With one hash the trees are the same.  With another hash they differ, but only in call sites. -/
theorem focus_counts_by_id_and_hash_for_s :
    ∃ trees restyledTrees rehashedTrees,
      symbolTrees snapshot 4 symbol = .ok trees ∧
      symbolTrees snapshot 4 restyled = .ok restyledTrees ∧
      symbolTrees snapshot 4 rehashed = .ok rehashedTrees ∧
      Tree.sameTrees trees restyledTrees = true ∧
      Tree.sameTrees trees rehashedTrees = false ∧
      Tree.sameTrees (Tree.withoutCallSitesAll trees)
        (Tree.withoutCallSitesAll rehashedTrees) = true := by
  obtain ⟨trees, shown⟩ : ∃ trees, symbolTrees snapshot 4 symbol = .ok trees := ⟨_, rfl⟩
  obtain ⟨restyledTrees, restyledShown⟩ :
      ∃ trees, symbolTrees snapshot 4 restyled = .ok trees := ⟨_, rfl⟩
  obtain ⟨rehashedTrees, rehashedShown⟩ :
      ∃ trees, symbolTrees snapshot 4 rehashed = .ok trees := ⟨_, rfl⟩
  refine ⟨trees, restyledTrees, rehashedTrees, shown, restyledShown, rehashedShown, ?_, ?_, ?_⟩
  · have same : symbol.id = restyled.id := rfl
    have agree := ((focus_counts_by_id_and_hash snapshot same).2 4).1 rfl
    rw [shown, restyledShown] at agree
    cases agree with
    | ok alike => exact alike
  · cases shown
    cases rehashedShown
    rfl
  · have same : symbol.id = rehashed.id := rfl
    have agree := ((focus_counts_by_id_and_hash snapshot same).2 4).2
    rw [shown, rehashedShown] at agree
    cases agree with
    | ok alike => exact alike

end OneId

end RefTree
