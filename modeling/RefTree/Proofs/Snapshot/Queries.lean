import RefTree.Proofs.Reference.Located
import RefTree.Snapshot

namespace RefTree
namespace Snapshot

open Document

/-!
# The stages of a query for references

A query for references goes through stages that can fail one after another: the record of the
owner, its table of categories, the id of the category, the look-up of that id among the known
ones, and the payloads stored under it.  The stages are named here and the queries are shown to be
their sequences.  What a query returns, or fails with, is then read off stage by stage.
-/

/-- The integer that a value holds.  A value that holds none is refused with a given fault, unless
it is infinite. -/
def integerOr (refusal : Fault) (value : Value) : Except Fault Int :=
  match value.integer with
  | .ok n => .ok n
  | .error .infinite => .error .infiniteInteger
  | .error .refused => .error refusal

/-- The integer that the id of a category stands for. -/
def categoryNumber (category : Value) : Except Fault Int :=
  integerOr (.categoryNotInteger category.quoted) category

/-- What is stored under a category.  Nothing is stored in what is no table. -/
def storedUnder? (stored : Option Value) (category : Value) : Option Value :=
  match stored with
  | some (.object lists) => Members.find? category.plain lists
  | _ => none

/-- The references in what is stored under a category: none if nothing is, and a fault if it is no
list. -/
def storedReferences (owner : String) (category : Value) :
    Option Value -> Except Fault (List Reference)
  | none => .ok []
  | some (.list payloads) => payloads.mapM Reference.decode
  | some _ => .error (.referencesNotList category.plain owner)

/-- A query for references is the sequence of its stages. -/
theorem referencesOf_eq (stored : Option Value) (known : List (String × Int)) (owner : String)
    (category : Value) :
    referencesOf stored known owner category =
      categoryNumber category >>= fun id =>
        if known.any fun entry => entry.2 == id then
          storedReferences owner category (storedUnder? stored category)
        else .error (.unknownCategory category.plain owner) := by
  unfold referencesOf categoryNumber integerOr
  cases number : category.integer with
  | error reason => cases reason <;> rfl
  | ok id =>
      simp only [Outcome.ok_bind]
      by_cases member : known.any fun entry => entry.2 == id
      · simp only [member, Bool.not_true, Bool.false_eq_true, if_false, if_true]
        have lookedUp : storedUnder? stored category =
            Members.find? category.plain
              (match stored with
              | some (.object members) => members
              | _ => []) := by
          unfold storedUnder?
          split <;> rfl
        rw [lookedUp]
        rfl
      · simp only [member, Bool.not_false, if_true, Bool.false_eq_true, if_false,
          Outcome.error_bind]

/-- A query returns references exactly when the id is that of a known category and all payloads
stored under it can be read. -/
theorem referencesOf_eq_ok_iff {stored : Option Value} {known : List (String × Int)}
    {owner : String} {category : Value} {found : List Reference} :
    referencesOf stored known owner category = .ok found ↔
      ∃ id name, categoryNumber category = .ok id ∧ (name, id) ∈ known ∧
        storedReferences owner category (storedUnder? stored category) = .ok found := by
  rw [referencesOf_eq, Outcome.bind_eq_ok_iff]
  constructor
  · rintro ⟨id, number, answered⟩
    split at answered
    · rename_i listed
      rcases List.any_eq_true.mp listed with ⟨⟨name, other⟩, member, same⟩
      have equal : other = id := by simpa using same
      subst equal
      exact ⟨other, name, number, member, answered⟩
    · cases answered
  · rintro ⟨id, name, number, member, answered⟩
    have listed : (known.any fun entry => entry.2 == id) = true :=
      List.any_eq_true.mpr ⟨(name, id), member, by simp⟩
    exact ⟨id, number, by rw [if_pos listed, answered]⟩

/-! ## What a record stores -/

/-- The properties in a record.  There are none in what is no table. -/
def recordedProperties (record : Members) : List (String × String) :=
  match Members.find? "properties" record with
  | some (.object members) => members.map fun entry => (entry.1, entry.2.plain)
  | _ => []

/-- The table of categories in a record. -/
def recordedCategories (record : Members) : Except Fault (List (String × Int)) :=
  categoriesOf (Members.find? "reference_types" record)

/-- The references that a record stores under a category. -/
def recordedReferences (owner : String) (record : Members) (category : Int) :
    Except Fault (List Reference) :=
  storedReferences ("symbol " ++ owner) (.int category)
    (storedUnder? (Members.find? "references" record) (.int category))

theorem properties_eq_recorded {snapshot : Snapshot} {symbol : String} {record : Members}
    (recorded : snapshot.symbolRecord symbol = .ok record) :
    snapshot.properties symbol = .ok (recordedProperties record) := by
  unfold properties recordedProperties
  rw [recorded, Outcome.ok_bind]
  cases Members.find? "properties" record with
  | none => rfl
  | some value => cases value <;> rfl

theorem categories_eq_recorded {snapshot : Snapshot} {symbol : String} {record : Members}
    (recorded : snapshot.symbolRecord symbol = .ok record) :
    snapshot.categories symbol = recordedCategories record := by
  unfold categories
  rw [recorded, Outcome.ok_bind]
  rfl

/-- If the record of a symbol lists a category, the references of that category are what the record
stores under it. -/
theorem references_eq_recorded {snapshot : Snapshot} {symbol : String} {record : Members}
    {known : List (String × Int)} {entry : String × Int}
    (recorded : snapshot.symbolRecord symbol = .ok record)
    (tabled : recordedCategories record = .ok known) (member : entry ∈ known) :
    snapshot.references symbol (.int entry.2) = recordedReferences symbol record entry.2 := by
  have number : categoryNumber (.int entry.2) = .ok entry.2 := rfl
  have listed : (known.any fun other => other.2 == entry.2) = true :=
    List.any_eq_true.mpr ⟨entry, member, by simp⟩
  unfold recordedCategories at tabled
  unfold references recordedReferences
  rw [recorded, Outcome.ok_bind, tabled, Outcome.ok_bind, referencesOf_eq, number,
    Outcome.ok_bind, if_pos listed]

/-- The properties of a symbol with a record can always be listed. -/
theorem exists_properties_of_categories {snapshot : Snapshot} {symbol : String}
    {known : List (String × Int)} (listed : snapshot.categories symbol = .ok known) :
    ∃ properties, snapshot.properties symbol = .ok properties := by
  unfold categories at listed
  rcases Outcome.bind_eq_ok_iff.mp listed with ⟨record, recorded, _⟩
  exact ⟨_, properties_eq_recorded recorded⟩

/-! ## No query returns a reference without a file -/

theorem isLocated_of_storedReferences {owner : String} {category : Value}
    {stored : Option Value} {found : List Reference}
    (read : storedReferences owner category stored = .ok found) :
    ∀ reference ∈ found, reference.IsLocated := by
  intro reference member
  unfold storedReferences at read
  split at read
  · cases read
    cases member
  · rcases Outcome.exists_of_mem_mapM read member with ⟨payload, _, decoded⟩
    exact Reference.isLocated_of_decode decoded
  · cases read

theorem isLocated_of_references {snapshot : Snapshot} {symbol : String} {category : Value}
    {found : List Reference} (answered : snapshot.references symbol category = .ok found) :
    ∀ reference ∈ found, reference.IsLocated := by
  unfold references at answered
  simp only [Outcome.bind_eq_ok_iff] at answered
  rcases answered with ⟨record, _, known, _, answered⟩
  rcases referencesOf_eq_ok_iff.mp answered with ⟨_, _, _, _, read⟩
  exact isLocated_of_storedReferences read

end Snapshot
end RefTree
