import RefTree.Proofs.Reference.Located
import RefTree.Row.Expand

namespace RefTree

/-!
# Groups hold what was grouped

Grouping is a loop that adds one reference at a time to a growing list of groups.  Two facts are
carried through it: no group is ever empty or holds a reference of another file, and the groups
together hold the references added so far, each as often as it was added.
-/

/-- A group is filled if it has a member and all its members are references in its file. -/
def FileGroup.IsFilled (group : FileGroup) : Prop :=
  group.members ≠ [] ∧
    ∀ member ∈ group.members, ∃ range, member.located = .ok range ∧ range.file = group.file

theorem FileGroup.IsFilled.isLocated {group : FileGroup} (filled : group.IsFilled) :
    ∀ member ∈ group.members, member.IsLocated := by
  intro member belongs
  rcases filled.2 member belongs with ⟨range, found, _⟩
  exact ⟨range, found⟩

/-! ## Adding one reference -/

theorem addToGroups_isFilled {file : String} {reference : Reference} {groups : List FileGroup}
    {range : SourceRange} (found : reference.located = .ok range) (inFile : range.file = file)
    (filled : ∀ group ∈ groups, group.IsFilled) :
    ∀ group ∈ addToGroups file reference groups, group.IsFilled := by
  induction groups with
  | nil =>
      intro group member
      rcases List.mem_singleton.mp member with rfl
      refine ⟨List.cons_ne_nil _ _, ?_⟩
      intro member belongs
      rcases List.mem_singleton.mp belongs with rfl
      exact ⟨range, found, inFile⟩
  | cons head rest inductionHypothesis =>
      have headFilled := filled head List.mem_cons_self
      have restFilled : ∀ group ∈ rest, group.IsFilled :=
        fun group member => filled group (List.mem_cons_of_mem _ member)
      intro group member
      unfold addToGroups at member
      by_cases same : head.file = file
      · rw [if_pos same] at member
        rcases List.mem_cons.mp member with rfl | later
        · refine ⟨by simp, ?_⟩
          intro member belongs
          rcases List.mem_append.mp belongs with old | new
          · simpa only [same] using headFilled.2 member old
          · rcases List.mem_singleton.mp new with rfl
            exact ⟨range, found, inFile⟩
        · exact restFilled group later
      · rw [if_neg same] at member
        rcases List.mem_cons.mp member with rfl | later
        · exact headFilled
        · exact inductionHypothesis restFilled group later

/-- Adding a reference adds it once, whichever group takes it. -/
theorem addToGroups_members_perm (file : String) (reference : Reference)
    (groups : List FileGroup) :
    ((addToGroups file reference groups).flatMap FileGroup.members).Perm
      (reference :: groups.flatMap FileGroup.members) := by
  induction groups with
  | nil => exact List.Perm.refl _
  | cons head rest inductionHypothesis =>
      unfold addToGroups
      by_cases same : head.file = file
      · rw [if_pos same]
        simp only [List.flatMap_cons, List.append_assoc, List.singleton_append]
        exact List.perm_middle
      · rw [if_neg same]
        simp only [List.flatMap_cons]
        exact (inductionHypothesis.append_left head.members).trans List.perm_middle

/-! ## Grouping a whole list -/

theorem groupInto_isFilled {references : List Reference} {groups grouped : List FileGroup}
    (filled : ∀ group ∈ groups, group.IsFilled)
    (run : groupInto groups references = .ok grouped) :
    ∀ group ∈ grouped, group.IsFilled := by
  induction references generalizing groups with
  | nil =>
      cases run
      exact filled
  | cons reference rest inductionHypothesis =>
      unfold groupInto at run
      split at run
      · rename_i range found
        exact inductionHypothesis (addToGroups_isFilled found rfl filled) run
      · cases run

theorem groupInto_members_perm {references : List Reference} {groups grouped : List FileGroup}
    (run : groupInto groups references = .ok grouped) :
    (grouped.flatMap FileGroup.members).Perm
      (references ++ groups.flatMap FileGroup.members) := by
  induction references generalizing groups with
  | nil =>
      cases run
      exact List.Perm.refl _
  | cons reference rest inductionHypothesis =>
      unfold groupInto at run
      split at run
      · rename_i range found
        have added := (addToGroups_members_perm range.file reference groups).append_left rest
        exact (inductionHypothesis run).trans (added.trans List.perm_middle)
      · cases run

/-- Only a reference without a file makes grouping fail. -/
theorem exists_groupInto {references : List Reference}
    (isLocated : ∀ reference ∈ references, reference.IsLocated) (groups : List FileGroup) :
    ∃ grouped, groupInto groups references = .ok grouped := by
  induction references generalizing groups with
  | nil => exact ⟨groups, rfl⟩
  | cons reference rest inductionHypothesis =>
      rcases List.forall_mem_cons.mp isLocated with ⟨⟨range, found⟩, restLocated⟩
      unfold groupInto
      rw [found]
      exact inductionHypothesis restLocated (addToGroups range.file reference groups)

theorem exists_groupByFile {references : List Reference}
    (isLocated : ∀ reference ∈ references, reference.IsLocated) :
    ∃ grouped, groupByFile references = .ok grouped :=
  exists_groupInto isLocated []

theorem groupByFile_isFilled {references : List Reference} {grouped : List FileGroup}
    (run : groupByFile references = .ok grouped) : ∀ group ∈ grouped, group.IsFilled :=
  groupInto_isFilled (fun _ member => absurd member List.not_mem_nil) run

/-- Grouping neither loses nor doubles a reference. -/
theorem groupByFile_members_perm {references : List Reference} {grouped : List FileGroup}
    (run : groupByFile references = .ok grouped) :
    (grouped.flatMap FileGroup.members).Perm references := by
  simpa using groupInto_members_perm run

/-- The members of a group are among the references that were grouped. -/
theorem groupByFile_members_subset {references : List Reference} {grouped : List FileGroup}
    (run : groupByFile references = .ok grouped) {group : FileGroup} (belongs : group ∈ grouped) :
    group.members ⊆ references := by
  intro reference listed
  have held : reference ∈ grouped.flatMap FileGroup.members :=
    List.mem_flatMap.mpr ⟨group, belongs, listed⟩
  exact (groupByFile_members_perm run).mem_iff.mp held

/-- There is a group for a file exactly if one of the references lies in it. -/
theorem groupByFile_files_iff {references : List Reference} {grouped : List FileGroup}
    (run : groupByFile references = .ok grouped) (file : String) :
    (∃ group ∈ grouped, group.file = file) ↔
      ∃ reference ∈ references, ∃ range, reference.located = .ok range ∧ range.file = file := by
  constructor
  · rintro ⟨group, belongs, rfl⟩
    rcases groupByFile_isFilled run group belongs with ⟨nonempty, inFile⟩
    rcases List.exists_mem_of_ne_nil _ nonempty with ⟨reference, member⟩
    exact ⟨reference, groupByFile_members_subset run belongs member, inFile reference member⟩
  · rintro ⟨reference, member, range, found, rfl⟩
    have held := (groupByFile_members_perm run).mem_iff.mpr member
    rcases List.mem_flatMap.mp held with ⟨group, belongs, listed⟩
    rcases (groupByFile_isFilled run group belongs).2 reference listed with ⟨other, again, same⟩
    rw [found] at again
    cases again
    exact ⟨group, belongs, same.symm⟩

end RefTree
