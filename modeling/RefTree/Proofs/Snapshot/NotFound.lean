import RefTree.Proofs.Snapshot.Queries

namespace RefTree

open Document

/-!
# What a query does not find

Three things can be missing from a snapshot: the record of a symbol, the record of a file, and a
category in the table of its owner.  A query reports each of them as not found.  Whatever else is
wrong, with a category table or with a payload, is reported in another way, and the order of the
checks decides which report is made.

In particular every category that a table lists is accepted by the query for its references: the
same table is read again, and the id that was listed is found in it.
-/

/-- The outcome is that something was not found. -/
def IsNotFound {result : Type} (outcome : Except Fault result) : Prop :=
  ∃ fault, outcome = .error fault ∧ fault.kind = .notFound

namespace IsNotFound

variable {input middle output : Type}

@[simp]
theorem ok_iff (value : output) : IsNotFound (.ok value) ↔ False := by
  simp [IsNotFound]

@[simp]
theorem error_iff (fault : Fault) :
    IsNotFound (.error fault : Except Fault output) ↔ fault.kind = .notFound := by
  simp [IsNotFound]

/-- A sequence does not find something in its first step, or in its second after the first. -/
theorem bind_iff {first : Except Fault middle} {next : middle -> Except Fault output} :
    IsNotFound (first >>= next) ↔
      IsNotFound first ∨ ∃ value, first = .ok value ∧ IsNotFound (next value) := by
  cases first with
  | error fault => simp
  | ok value => simp

theorem bind_pure_iff {first : Except Fault middle} {arrange : middle -> output} :
    IsNotFound (first >>= fun value => pure (arrange value)) ↔ IsNotFound first := by
  simp [bind_iff]

/-- If everything that can go wrong is that something is not found, a list does not find something
exactly if one of its elements does not. -/
theorem mapM_iff {step : input -> Except Fault output} {inputs : List input}
    (only : ∀ element fault, step element = .error fault -> fault.kind = .notFound) :
    IsNotFound (inputs.mapM step) ↔ ∃ element ∈ inputs, IsNotFound (step element) := by
  constructor
  · rintro ⟨fault, failed, kind⟩
    rcases Outcome.exists_of_mapM_eq_error failed with ⟨element, member, found⟩
    exact ⟨element, member, fault, found, kind⟩
  · rintro ⟨element, member, fault, failed, _⟩
    cases run : inputs.mapM step with
    | ok outputs =>
        rcases Outcome.exists_of_mem_left (Outcome.mapM_eq_ok_iff.mp run) member with
          ⟨result, _, succeeded⟩
        rw [failed] at succeeded
        cases succeeded
    | error other =>
        rcases Outcome.exists_of_mapM_eq_error run with ⟨culprit, _, found⟩
        exact ⟨other, rfl, only culprit other found⟩

theorem not_mapM {step : input -> Except Fault output} {inputs : List input}
    (finds : ∀ element ∈ inputs, ¬IsNotFound (step element)) :
    ¬IsNotFound (inputs.mapM step) := by
  rintro ⟨fault, failed, kind⟩
  rcases Outcome.exists_of_mapM_eq_error failed with ⟨element, member, found⟩
  exact finds element member ⟨fault, found, kind⟩

end IsNotFound

/-! ## Reading never looks anything up -/

theorem not_isNotFound_integerField (field : IntegerField) (value : Value) :
    ¬IsNotFound (integerField field value) := by
  unfold integerField
  split
  · simp
  · simp [Fault.kind]
  · simp [Fault.kind]

theorem not_isNotFound_tagsField (owner : String) (field : Option Value) :
    ¬IsNotFound (tagsField owner field) := by
  unfold tagsField
  split
  · simp
  · simp
  · split
    · simp
    · simp [Fault.kind]

theorem not_isNotFound_decode (payload : Value) : ¬IsNotFound (Reference.decode payload) := by
  unfold Reference.decode
  split
  · unfold Reference.ofMembers
    split
    · simp only
      split
      · split
        · simp [IsNotFound.bind_iff, integerMember, not_isNotFound_tagsField,
            not_isNotFound_integerField]
        · simp [Fault.kind]
      · simp [Fault.kind]
    · simp [Fault.kind]
  · simp [Fault.kind]

namespace Snapshot

theorem not_isNotFound_categoriesOf (table : Option Value) : ¬IsNotFound (categoriesOf table) := by
  unfold categoriesOf
  split
  · apply IsNotFound.not_mapM
    intro entry _
    unfold categoryEntry
    rw [IsNotFound.bind_pure_iff]
    exact not_isNotFound_integerField _ _
  · simp

theorem not_isNotFound_storedReferences (owner : String) (category : Value)
    (stored : Option Value) : ¬IsNotFound (storedReferences owner category stored) := by
  unfold storedReferences
  split
  · simp
  · exact IsNotFound.not_mapM fun payload _ => not_isNotFound_decode payload
  · simp [Fault.kind]

/-! ## Records and categories -/

/-- The snapshot has a record for a symbol. -/
def HasSymbol (snapshot : Snapshot) (id : String) : Prop :=
  ∃ record, Members.find? id (snapshot.table "symbols") = some (.object record)

/-- The snapshot has a record for a file. -/
def HasFile (snapshot : Snapshot) (id : String) : Prop :=
  ∃ record, Members.find? id (snapshot.table "files") = some (.object record)

/-- A table lists no category with an id. -/
def LacksCategory (known : List (String × Int)) (id : Int) : Prop :=
  ∀ name, (name, id) ∉ known

/-- A record that has to be an object is not found exactly if there is no object. -/
theorem object_isNotFound_iff (stored : Option Value) {fault : Fault}
    (kind : fault.kind = .notFound) :
    IsNotFound (match stored with
      | some (.object record) => .ok record
      | _ => .error fault) ↔ ¬∃ record, stored = some (.object record) := by
  split
  · simp
  · rename_i missing
    simp only [IsNotFound.error_iff, kind, true_iff]
    rintro ⟨record, rfl⟩
    exact missing record rfl

theorem symbolRecord_isNotFound_iff (snapshot : Snapshot) (id : String) :
    IsNotFound (snapshot.symbolRecord id) ↔ ¬snapshot.HasSymbol id :=
  object_isNotFound_iff (Members.find? id (snapshot.table "symbols")) rfl

theorem fileRecord_isNotFound_iff (snapshot : Snapshot) (id : String) :
    IsNotFound (snapshot.fileRecord id) ↔ ¬snapshot.HasFile id :=
  object_isNotFound_iff (Members.find? id (snapshot.table "files")) rfl

/-- A file is not found exactly if it has no record. -/
theorem file_isNotFound_iff (snapshot : Snapshot) (id : String) :
    IsNotFound (snapshot.file id) ↔ ¬snapshot.HasFile id := by
  rw [← fileRecord_isNotFound_iff]
  exact IsNotFound.bind_pure_iff

/-- Nothing else can go wrong with a file. -/
theorem kind_of_file_eq_error {snapshot : Snapshot} {id : String} {fault : Fault}
    (failed : snapshot.file id = .error fault) : fault.kind = .notFound := by
  unfold file fileRecord at failed
  split at failed
  · cases failed
  · cases failed
    rfl

theorem categories_isNotFound_iff (snapshot : Snapshot) (symbol : String) :
    IsNotFound (snapshot.categories symbol) ↔ ¬snapshot.HasSymbol symbol := by
  rw [← symbolRecord_isNotFound_iff]
  simp [categories, IsNotFound.bind_iff, not_isNotFound_categoriesOf]

theorem fileCategories_isNotFound_iff (snapshot : Snapshot) (file : String) :
    IsNotFound (snapshot.fileCategories file) ↔ ¬snapshot.HasFile file := by
  rw [← fileRecord_isNotFound_iff]
  simp [fileCategories, IsNotFound.bind_iff, not_isNotFound_categoriesOf]

/-- Among known categories, the references of a category are not found exactly if the category is
not among them. -/
theorem referencesOf_isNotFound_iff (stored : Option Value) (known : List (String × Int))
    (owner : String) (id : Int) :
    IsNotFound (referencesOf stored known owner (.int id)) ↔ LacksCategory known id := by
  have number : categoryNumber (.int id) = .ok id := rfl
  rw [referencesOf_eq, number, Outcome.ok_bind]
  unfold LacksCategory
  by_cases listed : ∃ name, (name, id) ∈ known
  · have found : (known.any fun entry => entry.2 == id) = true := by simpa using listed
    rw [if_pos found, ← not_exists]
    simp only [listed, not_true, iff_false]
    exact not_isNotFound_storedReferences _ _ _
  · have absent : ¬(known.any fun entry => entry.2 == id) = true := by simpa using listed
    rw [if_neg absent, ← not_exists]
    simp only [listed, not_false_eq_true, iff_true]
    exact (IsNotFound.error_iff _).mpr rfl

/-- The references of a symbol are not found if its record is missing, or else if its table lacks
the category. -/
theorem references_isNotFound_iff (snapshot : Snapshot) (symbol : String) (id : Int) :
    IsNotFound (snapshot.references symbol (.int id)) ↔
      ¬snapshot.HasSymbol symbol ∨
        ∃ known, snapshot.categories symbol = .ok known ∧ LacksCategory known id := by
  rw [← symbolRecord_isNotFound_iff]
  unfold references categories
  simp only [IsNotFound.bind_iff, not_isNotFound_categoriesOf, false_or,
    referencesOf_isNotFound_iff, Outcome.bind_eq_ok_iff]
  apply or_congr_right
  constructor
  · rintro ⟨record, recorded, known, tabled, lacks⟩
    exact ⟨known, ⟨record, recorded, tabled⟩, lacks⟩
  · rintro ⟨known, ⟨record, recorded, tabled⟩, lacks⟩
    exact ⟨record, recorded, known, tabled, lacks⟩

theorem fileReferences_isNotFound_iff (snapshot : Snapshot) (file : String) (id : Int) :
    IsNotFound (snapshot.fileReferences file (.int id)) ↔
      ¬snapshot.HasFile file ∨
        ∃ known, snapshot.fileCategories file = .ok known ∧ LacksCategory known id := by
  rw [← fileCategories_isNotFound_iff]
  unfold fileReferences
  simp only [IsNotFound.bind_iff, referencesOf_isNotFound_iff]

/-! ## Listed categories are found -/

theorem hasSymbol_of_categories {snapshot : Snapshot} {symbol : String}
    {known : List (String × Int)} (listed : snapshot.categories symbol = .ok known) :
    snapshot.HasSymbol symbol := by
  by_contra missing
  have unfound := (categories_isNotFound_iff snapshot symbol).mpr missing
  rw [listed, IsNotFound.ok_iff] at unfound
  exact unfound

/-- Every category that the table of a symbol lists is accepted by the query for its references. -/
theorem not_isNotFound_references {snapshot : Snapshot} {symbol : String}
    {known : List (String × Int)} {entry : String × Int}
    (listed : snapshot.categories symbol = .ok known) (member : entry ∈ known) :
    ¬IsNotFound (snapshot.references symbol (.int entry.2)) := by
  rw [references_isNotFound_iff]
  rintro (missing | ⟨others, relisted, lacks⟩)
  · exact missing (hasSymbol_of_categories listed)
  · rw [listed] at relisted
    cases relisted
    exact lacks entry.1 member

/-- Every category that the table of a file lists is accepted by the query for its references. -/
theorem not_isNotFound_fileReferences {snapshot : Snapshot} {file : String}
    {known : List (String × Int)} {entry : String × Int}
    (listed : snapshot.fileCategories file = .ok known) (member : entry ∈ known) :
    ¬IsNotFound (snapshot.fileReferences file (.int entry.2)) := by
  rw [fileReferences_isNotFound_iff]
  rintro (missing | ⟨others, relisted, lacks⟩)
  · have unfound := (fileCategories_isNotFound_iff snapshot file).mpr missing
    rw [listed, IsNotFound.ok_iff] at unfound
    exact unfound
  · rw [listed] at relisted
    cases relisted
    exact lacks entry.1 member

end Snapshot
end RefTree
