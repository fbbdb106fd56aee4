import RefTree.Proofs.Reference.Spelling
import RefTree.Proofs.Snapshot.Queries

namespace RefTree

open Document

/-!
# Snapshots that are spelled differently

Two snapshots may hold the same payloads in different spellings and agree in everything else.  No
query tells them apart, because a payload is never returned as it stands but only as the reference
that it describes.  What is changed lies deep in a snapshot, below the record of a symbol or the
table of a file; a change is followed down to it by the look-ups that a query makes.
-/

/-! ## Changes inside a snapshot -/

namespace Document

/-- Members keep their names and their order, and values change as they may or not at all. -/
inductive MembersChanged (change : String -> Value -> Value -> Prop) : Value -> Value -> Prop
  | object {first second : Members}
      (each : List.Forall₂ (fun old new => old.1 = new.1 ∧
        (old.2 = new.2 ∨ change old.1 old.2 new.2)) first second) :
      MembersChanged change (.object first) (.object second)

theorem MembersChanged.foundAlike {change : String -> Value -> Value -> Prop}
    {first second : Members} (changed : MembersChanged change (.object first) (.object second))
    (name : String) :
    FoundAlike (change name) (Members.find? name first) (Members.find? name second) := by
  rcases changed with ⟨each⟩
  induction each with
  | nil => exact Or.inl rfl
  | @cons old new _ _ head _ inductionHypothesis =>
      rcases head with ⟨sameName, values⟩
      rw [Members.find?, Members.find?, ← sameName]
      split
      · rename_i found
        subst found
        rcases values with same | allowed
        · exact Or.inl (congrArg some same)
        · exact Or.inr ⟨_, _, rfl, rfl, allowed⟩
      · exact inductionHypothesis

/-- What is found under a name in something that was found itself. -/
def inside? (name : String) : Option Value -> Option Value
  | some (.object members) => Members.find? name members
  | _ => none

theorem FoundAlike.inside {change : String -> Value -> Value -> Prop} {first second : Option Value}
    (found : FoundAlike (MembersChanged change) first second) (name : String) :
    FoundAlike (change name) (inside? name first) (inside? name second) := by
  rcases found with same | ⟨old, new, rfl, rfl, changed⟩
  · exact Or.inl (congrArg (inside? name) same)
  · cases changed with
    | object each => exact (MembersChanged.object each).foundAlike name

end Document

namespace Snapshot

/-- A list of payloads of which each may be spelled differently. -/
inductive PayloadsChanged : Value -> Value -> Prop
  | list {first second : List Value} (each : List.Forall₂ Reference.SpelledAlike first second) :
      PayloadsChanged (.list first) (.list second)

/-- The lists of references of all categories of one owner. -/
def StoredChanged : Value -> Value -> Prop :=
  MembersChanged fun _ => PayloadsChanged

/-- The changes that the members of the record of a symbol allow. -/
def RecordChange : String -> Value -> Value -> Prop
  | "references" => StoredChanged
  | _ => fun _ _ => False

/-- The changes that the members of a snapshot allow. -/
def TableChange : String -> Value -> Value -> Prop
  | "symbols" => MembersChanged fun _ => MembersChanged RecordChange
  | "file_references" => MembersChanged fun _ => StoredChanged
  | _ => fun _ _ => False

/-- Two snapshots differ in nothing but the spelling of the payloads of references. -/
def DifferInSpelling (first second : Snapshot) : Prop :=
  MembersChanged TableChange first.document second.document

theorem find?_table (snapshot : Snapshot) (id name : String) :
    Members.find? id (snapshot.table name) = inside? id (Members.find? name snapshot.members) := by
  rw [table.eq_def]
  cases Members.find? name snapshot.members with
  | none => rfl
  | some value =>
      cases value with
      | object members => rfl
      | null | bool _ | int _ | double _ | text _ | list _ => rfl

theorem storedUnder?_eq (stored : Option Value) (category : Value) :
    storedUnder? stored category = inside? category.plain stored :=
  rfl

theorem storedReferences_eq_of_foundAlike {first second : Option Value}
    (found : FoundAlike PayloadsChanged first second) (owner : String) (category : Value) :
    storedReferences owner category first = storedReferences owner category second := by
  apply found.read_eq (storedReferences owner category)
  intro old new changed
  cases changed with
  | list each =>
      show List.mapM Reference.decode _ = List.mapM Reference.decode _
      induction each with
      | nil => rfl
      | cons alike _ inductionHypothesis =>
          rw [List.mapM_cons, List.mapM_cons, alike.decode_eq, inductionHypothesis]

theorem referencesOf_eq_of_foundAlike {first second : Option Value}
    (found : FoundAlike StoredChanged first second) :
    referencesOf first = referencesOf second := by
  funext known owner category
  rw [referencesOf_eq, referencesOf_eq, storedUnder?_eq, storedUnder?_eq,
    storedReferences_eq_of_foundAlike (found.inside category.plain)]

/-- Two records in which the same is found under every name, but for the stored references. -/
def RecordsAlike (first second : Members) : Prop :=
  ∀ name, FoundAlike (RecordChange name) (Members.find? name first) (Members.find? name second)

theorem RecordsAlike.find?_eq {first second : Members} (alike : RecordsAlike first second)
    {name : String} (other : name ≠ "references") :
    Members.find? name first = Members.find? name second := by
  have found := alike name
  rw [RecordChange.eq_def] at found
  split at found
  · exact absurd rfl other
  · exact found.eq

theorem payloadsAlike_symbolPayload (id : Value) {first second : Members}
    (alike : RecordsAlike first second) :
    Reference.PayloadsAlike (symbolPayload id first) (symbolPayload id second) := by
  apply Reference.PayloadsAlike.of_find?_eq
  intro name known
  rw [symbolPayload, symbolPayload, Members.find?, Members.find?, (alike "id").eq]
  split
  · rfl
  · rename_i other
    have different : name ≠ "id" := fun same => other same.symm
    rw [Members.find?_erase_of_ne different, Members.find?_erase_of_ne different]
    apply alike.find?_eq
    rintro rfl
    simp at known

/-- Two snapshots that answer every query alike. -/
structure SameAnswers (first second : Snapshot) : Prop where
  symbol : first.symbol = second.symbol
  file : first.file = second.file
  properties : first.properties = second.properties
  categories : first.categories = second.categories
  references : first.references = second.references
  fileCategories : first.fileCategories = second.fileCategories
  fileReferences : first.fileReferences = second.fileReferences

namespace DifferInSpelling

variable {first second : Snapshot} (differ : first.DifferInSpelling second)
include differ

theorem symbolRecord_agree (id : String) :
    Outcome.Agree RecordsAlike (first.symbolRecord id) (second.symbolRecord id) := by
  have found := (differ.foundAlike "symbols").inside id
  rw [← find?_table, ← find?_table] at found
  rw [symbolRecord.eq_def, symbolRecord.eq_def]
  rcases found with same | ⟨old, new, firstFound, secondFound, changed⟩
  · rw [same]
    apply Outcome.Agree.refl_of
    intro record _ name
    exact Or.inl rfl
  · rw [firstFound, secondFound]
    cases changed with
    | object each => exact .ok (MembersChanged.object each).foundAlike

theorem properties_eq : first.properties = second.properties := by
  funext id
  rw [properties, properties]
  apply (differ.symbolRecord_agree id).bind_eq
  intro record other alike
  rw [(alike "properties").eq]

theorem categories_eq : first.categories = second.categories := by
  funext id
  rw [categories, categories]
  apply (differ.symbolRecord_agree id).bind_eq
  intro record other alike
  rw [(alike "reference_types").eq]

theorem references_eq : first.references = second.references := by
  funext id category
  rw [references, references]
  apply (differ.symbolRecord_agree id).bind_eq
  intro record other alike
  rw [(alike "reference_types").eq, referencesOf_eq_of_foundAlike (alike "references")]

theorem file_eq : first.file = second.file := by
  funext id
  rw [file, file, fileRecord, fileRecord, find?_table, find?_table, (differ.foundAlike "files").eq]

theorem fileCategories_eq : first.fileCategories = second.fileCategories := by
  funext id
  rw [fileCategories, fileCategories, fileRecord, fileRecord, find?_table, find?_table,
    find?_table, find?_table, (differ.foundAlike "files").eq,
    (differ.foundAlike "file_reference_types").eq]

theorem fileReferences_eq : first.fileReferences = second.fileReferences := by
  funext id category
  rw [fileReferences, fileReferences, differ.fileCategories_eq, find?_table, find?_table,
    referencesOf_eq_of_foundAlike ((differ.foundAlike "file_references").inside id)]

/-- The record of a symbol with a range is read as a payload, which its stored references are no
part of. -/
theorem symbol_eq : first.symbol = second.symbol := by
  funext id
  rw [symbol, symbol]
  apply (differ.symbolRecord_agree id.plain).bind_eq
  intro record other alike
  have payload := (payloadsAlike_symbolPayload id alike).ofMembers_eq
  have nameHash (field : IntegerField) : integerMember record "mangled_name_hash" field =
      integerMember other "mangled_name_hash" field := by
    rw [integerMember, integerMember, (alike "mangled_name_hash").eq]
  simp only [(alike "range").eq, (alike "tags").eq, (alike "display_value").eq, payload, nameHash]

theorem sameAnswers : first.SameAnswers second where
  symbol := differ.symbol_eq
  file := differ.file_eq
  properties := differ.properties_eq
  categories := differ.categories_eq
  references := differ.references_eq
  fileCategories := differ.fileCategories_eq
  fileReferences := differ.fileReferences_eq

end DifferInSpelling

end Snapshot

end RefTree
