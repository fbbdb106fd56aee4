import RefTree.Proofs.Row.Built
import RefTree.Proofs.Snapshot.Infinity

namespace RefTree

open Document

/-!
# Infinite numbers below rows

Opening a row that the library built fails as its queries do: in the ways that are meant, unless a
query meets an infinite number.  Grouping, labels and the names of files add nothing to this.  So
whether a row meets an infinite number can be read off the source of the row, which tells the
queries that opening it makes.
-/

/-! ## What a row meets -/

/-- Looking for the calls that a caller makes meets an infinite number: among the categories of the
caller, or among its calls. -/
def CallsMeetInfinity (snapshot : Snapshot) (caller : Reference) : Prop :=
  (Query.categories (.text caller.id)).MeetsInfinity snapshot ∨
    ∃ known entry, snapshot.categories caller.id = .ok known ∧
      (known.find? fun entry => entry.1 == callsName) = some entry ∧
      (Query.references (.text caller.id) (.int entry.2)).MeetsInfinity snapshot

/-- Opening a row meets an infinite number where an integer is needed. -/
def Row.MeetsInfinity (snapshot : Snapshot) (row : Row) : Prop :=
  match row.source with
  | .category (.symbol symbol) category =>
      (Query.references (.text symbol.id) category.id).MeetsInfinity snapshot
  | .fileCategory (.file file) category =>
      (Query.fileReferences (.text file.id) category.id).MeetsInfinity snapshot
  | .calls _ _ caller => CallsMeetInfinity snapshot caller
  | _ => False

/-! ## Steps that meet nothing -/

namespace TypedUnless

variable {middle output : Type}

/-- A sequence whose later steps meet no infinite number meets one only at first. -/
theorem before {condition : Prop} {first : Except Fault middle}
    {next : middle -> Except Fault output} (holds : TypedUnless condition first)
    (holdsLater : ∀ value, TypedUnless False (next value)) :
    TypedUnless condition (first >>= next) := by
  apply (holds.bind holdsLater).of_iff
  simp only [and_false, exists_false, or_false]

theorem mapM_false {step : middle -> Except Fault output}
    (holds : ∀ element, TypedUnless False (step element)) (inputs : List middle) :
    TypedUnless False (inputs.mapM step) := by
  apply (mapM holds inputs).of_iff
  rw [iff_false]
  induction inputs with
  | nil => exact id
  | cons element rest inductionHypothesis =>
      rintro (impossible | ⟨_, later⟩)
      · exact impossible
      · exact inductionHypothesis later

end TypedUnless

theorem Reference.located_typed (reference : Reference) :
    TypedUnless False reference.located := by
  unfold located
  split
  · split
    · exact TypedUnless.error (Or.inr (Or.inr rfl))
    · exact TypedUnless.ok _
  · exact TypedUnless.error (Or.inr (Or.inr rfl))

theorem Reference.label_typed (reference : Reference) : TypedUnless False reference.label :=
  reference.located_typed.bind_pure _

theorem Row.leaf_typed (reference : Reference) (id : Option String) :
    TypedUnless False (leaf reference id) :=
  reference.label_typed.bind_pure _

theorem callerRow_typed (focus : Focus) (category : Category) (caller : Reference) :
    TypedUnless False (callerRow focus category caller) :=
  caller.label_typed.bind_pure _

theorem groupInto_typed (groups : List FileGroup) (references : List Reference) :
    TypedUnless False (groupInto groups references) := by
  induction references generalizing groups with
  | nil => exact TypedUnless.ok groups
  | cons reference rest inductionHypothesis =>
      have first := reference.located_typed
      unfold groupInto
      cases found : reference.located with
      | ok range => exact inductionHypothesis _
      | error fault =>
          rw [found] at first
          constructor
          · intro other failed
            cases failed
            exact first.typed fault rfl
          · rw [← first.infinite_iff]
            simp

theorem fileGroupRow_typed (snapshot : Snapshot) (symbol : Symbol) (category : Category)
    (group : FileGroup) :
    TypedUnless False (fileGroupRow snapshot (.symbol symbol) category group) :=
  (snapshot.file_typed group.file).bind_pure _

/-! ## Rows below a row -/

theorem categoryRows_typed (snapshot : Snapshot) (symbol : Symbol) (category : Category) :
    TypedUnless ((Query.references (.text symbol.id) category.id).MeetsInfinity snapshot)
      (categoryRows snapshot (.symbol symbol) category) := by
  apply (snapshot.references_typed (.text symbol.id) category.id).before
  intro references
  split
  · apply (groupInto_typed [] references).before
    intro groups
    exact TypedUnless.mapM_false (fileGroupRow_typed snapshot symbol category) groups
  · exact TypedUnless.mapM_false (fun reference => Row.leaf_typed reference none) references

theorem fileCategoryRows_typed (snapshot : Snapshot) (file : FileHandle) (category : Category) :
    TypedUnless ((Query.fileReferences (.text file.id) category.id).MeetsInfinity snapshot)
      (fileCategoryRows snapshot (.file file) category) := by
  apply (snapshot.fileReferences_typed (.text file.id) category.id).before
  intro references
  exact TypedUnless.mapM_false (fun reference => Row.leaf_typed reference none) references

theorem fileGroupRows_typed (focus : Focus) (category : Category) (id : String)
    (members : List Reference) :
    TypedUnless False (fileGroupRows focus category id members) := by
  by_cases named : category.name = callerName
  · rw [fileGroupRows_caller focus category id members named]
    exact TypedUnless.mapM_false (callerRow_typed focus category) members
  · rw [fileGroupRows_leaf focus category id members named]
    exact TypedUnless.mapM_false (fun reference => Row.leaf_typed reference _) members

theorem callsOf_typed (snapshot : Snapshot) (caller : Reference) :
    TypedUnless (CallsMeetInfinity snapshot caller) (callsOf snapshot caller) := by
  have listed := snapshot.categories_typed (.text caller.id)
  refine TypedUnless.of_iff
    (@TypedUnless.bind _ _ _
      (fun known => ∃ entry, (known.find? fun entry => entry.1 == callsName) = some entry ∧
        (Query.references (.text caller.id) (.int entry.2)).MeetsInfinity snapshot)
      _ _ listed ?_) ?_
  · intro known
    split
    · rename_i absent
      exact (TypedUnless.ok none).of_iff (by simp [absent])
    · rename_i entry present
      apply ((snapshot.references_typed (.text caller.id) (.int entry.2)).bind_pure some).of_iff
      simp [present]
  · unfold CallsMeetInfinity
    simp only [exists_and_left]

theorem callSiteRows_typed (snapshot : Snapshot) (symbol : Symbol) (caller : Reference) :
    TypedUnless (CallsMeetInfinity snapshot caller)
      (callSiteRows snapshot (.symbol symbol) caller) := by
  apply (callsOf_typed snapshot caller).before
  intro calls
  cases calls with
  | none => exact TypedUnless.ok []
  | some calls =>
      simp only [callsTo_symbol, Outcome.ok_bind, Focus.id]
      exact TypedUnless.mapM_false (fun call => Row.leaf_typed call _) _

/-- Opening a row that the library built fails only in the ways that are meant, unless the row meets
an infinite number. -/
theorem Row.IsBuilt.children_typed {row : Row} (built : row.IsBuilt) (snapshot : Snapshot) :
    TypedUnless (row.MeetsInfinity snapshot) (row.children snapshot) := by
  cases built with
  | property symbol property => exact TypedUnless.ok []
  | category symbol entry => exact categoryRows_typed snapshot symbol (.ofEntry entry)
  | fileCategory file entry => exact fileCategoryRows_typed snapshot file (.ofEntry entry)
  | fileGroup shape =>
      rcases shape with ⟨_, _, symbol, group, _, made⟩
      rcases fileGroupRow_eq_ok_iff.mp made with ⟨_, _, rfl⟩
      exact fileGroupRows_typed _ _ _ _
  | caller shape =>
      rcases shape with ⟨_, symbol, caller, made⟩
      rcases callerRow_eq_ok_iff.mp made with ⟨_, _, rfl⟩
      exact (callSiteRows_typed snapshot symbol caller).bind_pure _
  | recursive shape =>
      rcases shape with ⟨_, caller, rfl⟩
      exact categoryRows_typed snapshot _ _
  | leaf shape =>
      rcases shape with ⟨reference, id, made⟩
      rcases leaf_eq_ok_iff.mp made with ⟨_, _, rfl⟩
      exact TypedUnless.ok []

end RefTree
