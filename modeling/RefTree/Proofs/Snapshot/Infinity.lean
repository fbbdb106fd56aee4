import RefTree.Proofs.Snapshot.Queries
import RefTree.Session

namespace RefTree

open Document

/-!
# Infinite numbers in queries

A snapshot is meant to fail in three ways: an id is unknown, the snapshot cannot be used, or a
stored reference is malformed.  A query falls outside of this if it is given an infinite number, or
finds one, where an integer is needed.  When that happens is characterised exactly, by what the
query reads and in the order in which it reads it.  Everything else that can go wrong with a query
is of one of the three kinds.

The proofs follow the queries step by step.  For each step it is stated under which condition the
step meets an infinite number, and conditions are put together as the steps are.
-/

/-- The kinds of faults that a snapshot is meant to fail with. -/
def FaultKind.IsTyped (kind : FaultKind) : Prop :=
  kind = .notFound ∨ kind = .unavailable ∨ kind = .malformed

theorem FaultKind.not_isTyped_overflow : ¬IsTyped .overflow := by
  intro typed
  rcases typed with impossible | impossible | impossible <;> cases impossible

/-- An outcome fails only in the ways that are meant, except that it meets an infinite integer
exactly under a condition. -/
structure TypedUnless {result : Type} (infinite : Prop) (outcome : Except Fault result) : Prop where
  typed : ∀ fault, outcome = .error fault -> fault.kind.IsTyped ∨ fault = .infiniteInteger
  infinite_iff : outcome = .error .infiniteInteger ↔ infinite

/-- The first element of a list that is not passed is one that is met. -/
def Reaches {element : Type} (passed met : element -> Prop) : List element -> Prop
  | [] => False
  | first :: rest => met first ∨ (passed first ∧ Reaches passed met rest)

/-! ## What is read -/

namespace Document.Value

/-- An infinite number. -/
def IsInfinite (value : Value) : Prop :=
  ∃ negative, value = .double (.infinite negative)

/-- A value that can be read as an integer. -/
def HoldsInteger (value : Value) : Prop :=
  ∃ n, value.integer = .ok n

end Document.Value

/-- A field that can be read as tags: it is missing, a list, or empty in some other form. -/
def HoldsTags (field : Option Value) : Prop :=
  ∀ value, field = some value -> (∃ elements, value = .list elements) ∨ value.isFalsy = true

/-- The values that have to be integers in the payload of a reference, in the order in which they
are read. -/
def payloadIntegers (members range : Members) : List Value :=
  [(Members.find? "line" (startPosition range)).getD (.int 0),
    (Members.find? "column" (startPosition range)).getD (.int 0),
    (Members.find? "mangled_name_hash" members).getD (.int 0)]

/-- The first thing that is wrong with the payload of a reference is an infinite number. -/
def MembersMeetInfinity (members : Members) : Prop :=
  ∃ id range file, Members.find? "id" members = some id ∧
    Members.find? "range" members = some (.object range) ∧ fileField? range = some file ∧
    HoldsTags (Members.find? "tags" members) ∧
    Reaches Value.HoldsInteger Value.IsInfinite (payloadIntegers members range)

/-- The same for a payload that may be of any form. -/
def PayloadMeetsInfinity (payload : Value) : Prop :=
  ∃ members, payload = .object members ∧ MembersMeetInfinity members

/-- The first id in a category table that is no integer is infinite. -/
def TableMeetsInfinity (table : Option Value) : Prop :=
  ∃ members, table = some (.object members) ∧
    Reaches (fun entry => entry.2.HoldsInteger) (fun entry => entry.2.IsInfinite) members

/-- The id of a category is infinite, or it is known and the first payload stored under it that
cannot be read meets an infinite number. -/
def CategoryMeetsInfinity (stored : Option Value) (known : List (String × Int))
    (category : Value) : Prop :=
  category.IsInfinite ∨
    ∃ id name payloads, category.integer = .ok id ∧ (name, id) ∈ known ∧
      Snapshot.storedUnder? stored category = some (.list payloads) ∧
      Reaches (fun payload => ∃ reference, Reference.decode payload = .ok reference)
        PayloadMeetsInfinity payloads

/-- The first thing that is wrong with the record of a symbol is an infinite number.  A record with
a range is read as a reference, and any other has tags and a hash only. -/
def RecordMeetsInfinity (id : Value) (record : Members) : Prop :=
  (Members.find? "range" record ≠ none ∧
      MembersMeetInfinity (Snapshot.symbolPayload id record)) ∨
    (Members.find? "range" record = none ∧ HoldsTags (Members.find? "tags" record) ∧
      ((Members.find? "mangled_name_hash" record).getD (.int 0)).IsInfinite)

/-- A query needs an integer and meets an infinite number, before anything else is wrong. -/
def Query.MeetsInfinity (snapshot : Snapshot) : Query -> Prop
  | .symbol id =>
      ∃ record, snapshot.symbolRecord id.plain = .ok record ∧ RecordMeetsInfinity id record
  | .file _ | .properties _ => False
  | .categories id =>
      ∃ record, snapshot.symbolRecord id.plain = .ok record ∧
        TableMeetsInfinity (Members.find? "reference_types" record)
  | .references id category =>
      ∃ record, snapshot.symbolRecord id.plain = .ok record ∧
        (TableMeetsInfinity (Members.find? "reference_types" record) ∨
          ∃ known, Snapshot.categoriesOf (Members.find? "reference_types" record) = .ok known ∧
            CategoryMeetsInfinity (Members.find? "references" record) known category)
  | .fileCategories id =>
      ∃ record, snapshot.fileRecord id.plain = .ok record ∧
        TableMeetsInfinity (Members.find? id.plain (snapshot.table "file_reference_types"))
  | .fileReferences id category =>
      (∃ record, snapshot.fileRecord id.plain = .ok record ∧
        TableMeetsInfinity (Members.find? id.plain (snapshot.table "file_reference_types"))) ∨
      ∃ known, snapshot.fileCategories id.plain = .ok known ∧
        CategoryMeetsInfinity (Members.find? id.plain (snapshot.table "file_references")) known
          category

/-! ## Conditions of sequences -/

namespace TypedUnless

variable {middle output : Type}

theorem ok (value : output) : TypedUnless False (.ok value) where
  typed := by
    intro fault failed
    cases failed
  infinite_iff := by simp

theorem error {fault : Fault} (typed : fault.kind.IsTyped) :
    TypedUnless False (.error fault : Except Fault output) where
  typed := by
    intro other failed
    cases failed
    exact Or.inl typed
  infinite_iff := by
    simp only [Except.error.injEq, iff_false]
    rintro rfl
    exact FaultKind.not_isTyped_overflow typed

theorem infinite : TypedUnless True (.error .infiniteInteger : Except Fault output) where
  typed := by
    intro fault failed
    cases failed
    exact Or.inr rfl
  infinite_iff := by simp

theorem of_iff {first second : Prop} {outcome : Except Fault output}
    (holds : TypedUnless first outcome) (same : first ↔ second) : TypedUnless second outcome where
  typed := holds.typed
  infinite_iff := holds.infinite_iff.trans same

/-- A sequence meets an infinite number in its first step, or later if the first step is passed. -/
theorem bind {condition : Prop} {later : middle -> Prop} {first : Except Fault middle}
    {next : middle -> Except Fault output} (holds : TypedUnless condition first)
    (holdsLater : ∀ value, TypedUnless (later value) (next value)) :
    TypedUnless (condition ∨ ∃ value, first = .ok value ∧ later value) (first >>= next) where
  typed := by
    intro fault failed
    rcases Outcome.bind_eq_error_iff.mp failed with early | ⟨value, _, late⟩
    · exact holds.typed fault early
    · exact (holdsLater value).typed fault late
  infinite_iff := by
    rw [Outcome.bind_eq_error_iff, holds.infinite_iff]
    simp only [(holdsLater _).infinite_iff]

/-- A sequence whose first step meets no infinite number meets one only later. -/
theorem after {later : middle -> Prop} {first : Except Fault middle}
    {next : middle -> Except Fault output} (holds : TypedUnless False first)
    (holdsLater : ∀ value, TypedUnless (later value) (next value)) :
    TypedUnless (∃ value, first = .ok value ∧ later value) (first >>= next) :=
  (holds.bind holdsLater).of_iff (by rw [false_or])

theorem bind_pure {condition : Prop} {first : Except Fault middle}
    (holds : TypedUnless condition first) (arrange : middle -> output) :
    TypedUnless condition (first >>= fun value => pure (arrange value)) := by
  have sequence := holds.bind (fun value => ok (arrange value))
  apply sequence.of_iff
  simp

/-- A step for every element meets an infinite number where the first failing step does. -/
theorem mapM {condition : middle -> Prop} {step : middle -> Except Fault output}
    (holds : ∀ element, TypedUnless (condition element) (step element)) (inputs : List middle) :
    TypedUnless (Reaches (fun element => ∃ result, step element = .ok result) condition inputs)
      (inputs.mapM step) := by
  induction inputs with
  | nil => exact ok []
  | cons element rest inductionHypothesis =>
      rw [List.mapM_cons]
      have sequence := (holds element).bind (fun result =>
        inductionHypothesis.bind_pure fun results => result :: results)
      apply sequence.of_iff
      simp [Reaches]

/-- An outcome fails only in the ways that are meant exactly if its condition fails. -/
theorem forall_isTyped_iff {condition : Prop} {outcome : Except Fault output}
    (holds : TypedUnless condition outcome) :
    (∀ fault, outcome = .error fault -> fault.kind.IsTyped) ↔ ¬condition := by
  rw [← holds.infinite_iff]
  constructor
  · intro typed failed
    exact FaultKind.not_isTyped_overflow (typed _ failed)
  · intro finite fault failed
    rcases holds.typed fault failed with typed | rfl
    · exact typed
    · exact absurd failed finite

end TypedUnless

/-! ## Single fields -/

theorem Document.Value.integer_eq_infinite_iff (value : Value) :
    value.integer = .error .infinite ↔ value.IsInfinite := by
  unfold integer IsInfinite
  split
  · simp
  · simp
  · rename_i number finite
    have notInfinite : ¬∃ negative, Value.double number = .double (.infinite negative) := by
      rintro ⟨negative, same⟩
      exact finite negative (Value.double.inj same)
    split
    · simpa using notInfinite
    · simpa using notInfinite
  · split
    · simp
    · simp
  · rename_i finite _
    simp only [Except.error.injEq, reduceCtorEq, false_iff]
    rintro ⟨negative, same⟩
    exact finite _ same

theorem integerOr_typed {refusal : Fault} (typed : refusal.kind.IsTyped) (value : Value) :
    TypedUnless value.IsInfinite (Snapshot.integerOr refusal value) := by
  rw [← value.integer_eq_infinite_iff]
  unfold Snapshot.integerOr
  cases read : value.integer with
  | ok n => exact (TypedUnless.ok n).of_iff (by simp)
  | error reason =>
      cases reason with
      | infinite => exact TypedUnless.infinite.of_iff (by simp)
      | refused => exact (TypedUnless.error typed).of_iff (by simp)

theorem integerOr_eq_ok_iff {refusal : Fault} {value : Value} {n : Int} :
    Snapshot.integerOr refusal value = .ok n ↔ value.integer = .ok n := by
  unfold Snapshot.integerOr
  cases value.integer with
  | ok n => simp
  | error reason => cases reason <;> simp

theorem integerField_eq (field : IntegerField) (value : Value) :
    integerField field value = Snapshot.integerOr (.notInteger field value.quoted) value := by
  unfold integerField Snapshot.integerOr
  cases value.integer with
  | ok n => rfl
  | error reason => cases reason <;> rfl

theorem integerField_typed (field : IntegerField) (value : Value) :
    TypedUnless value.IsInfinite (integerField field value) := by
  rw [integerField_eq]
  exact integerOr_typed (Or.inr (Or.inr rfl)) value

theorem tagsField_typed (owner : String) (field : Option Value) :
    TypedUnless False (tagsField owner field) := by
  unfold tagsField
  split
  · exact TypedUnless.ok _
  · exact TypedUnless.ok _
  · split
    · exact TypedUnless.ok _
    · exact TypedUnless.error (Or.inr (Or.inr rfl))

theorem exists_tagsField_iff {owner : String} {field : Option Value} :
    (∃ tags, tagsField owner field = .ok tags) ↔ HoldsTags field := by
  unfold tagsField HoldsTags
  split
  · simp
  · simp
  · rename_i value notList
    have others : ¬∃ elements, value = .list elements := by
      rintro ⟨elements, rfl⟩
      exact notList elements rfl
    split
    · rename_i falsy
      simp [falsy]
    · rename_i truthy
      simp [truthy, others]

/-! ## References and categories -/

/-- The integers of a payload are read one after another, once its tags have been read. -/
theorem payloadIntegers_iff {owner : String} {members range : Members}
    {line column : IntegerField} :
    (∃ tags, tagsField owner (Members.find? "tags" members) = .ok tags ∧
      (((Members.find? "line" (startPosition range)).getD (.int 0)).IsInfinite ∨
        ∃ n, integerMember (startPosition range) "line" line = .ok n ∧
          (((Members.find? "column" (startPosition range)).getD (.int 0)).IsInfinite ∨
            ∃ n, integerMember (startPosition range) "column" column = .ok n ∧
              ((Members.find? "mangled_name_hash" members).getD (.int 0)).IsInfinite))) ↔
      HoldsTags (Members.find? "tags" members) ∧
        Reaches Value.HoldsInteger Value.IsInfinite (payloadIntegers members range) := by
  simp only [integerMember, integerField_eq, integerOr_eq_ok_iff, exists_and_right,
    exists_tagsField_iff, payloadIntegers, Reaches, Value.HoldsInteger, and_false, or_false]

theorem ofMembers_typed (members : Members) :
    TypedUnless (MembersMeetInfinity members) (Reference.ofMembers members) := by
  unfold Reference.ofMembers MembersMeetInfinity
  cases idFound : Members.find? "id" members with
  | none => exact (TypedUnless.error (Or.inr (Or.inr rfl))).of_iff (by simp)
  | some id =>
      simp only
      split
      · rename_i range rangeFound
        cases fileFound : fileField? range with
        | none =>
            apply (TypedUnless.error (Or.inr (Or.inr rfl))).of_iff
            simp [rangeFound, fileFound]
        | some file =>
            refine TypedUnless.of_iff
              ((tagsField_typed _ _).after fun tags =>
                (integerField_typed _ _).bind fun line =>
                  (integerField_typed _ _).bind fun column =>
                    (integerField_typed _ _).bind_pure _)
              (payloadIntegers_iff.trans ?_)
            simp [rangeFound, fileFound]
      · rename_i noRange
        apply (TypedUnless.error (Or.inr (Or.inr rfl))).of_iff
        simp only [false_iff]
        rintro ⟨_, range, _, _, rangeFound, _⟩
        exact noRange range rangeFound

theorem decode_typed (payload : Value) :
    TypedUnless (PayloadMeetsInfinity payload) (Reference.decode payload) := by
  unfold Reference.decode PayloadMeetsInfinity
  split
  · exact (ofMembers_typed _).of_iff (by simp)
  · rename_i noObject
    apply (TypedUnless.error (Or.inr (Or.inr rfl))).of_iff
    simp only [false_iff]
    rintro ⟨members, same, _⟩
    exact noObject members same

namespace Snapshot

theorem exists_categoryEntry_iff {entry : String × Value} :
    (∃ read, categoryEntry entry = .ok read) ↔ entry.2.HoldsInteger := by
  unfold categoryEntry
  simp only [Outcome.bind_pure_eq_ok_iff, integerField_eq, integerOr_eq_ok_iff, Value.HoldsInteger]
  constructor
  · rintro ⟨_, n, read, _⟩
    exact ⟨n, read⟩
  · rintro ⟨n, read⟩
    exact ⟨_, n, read, rfl⟩

theorem categoryEntry_typed (entry : String × Value) :
    TypedUnless entry.2.IsInfinite (categoryEntry entry) :=
  (integerField_typed _ entry.2).bind_pure _

theorem categoriesOf_typed (table : Option Value) :
    TypedUnless (TableMeetsInfinity table) (categoriesOf table) := by
  unfold categoriesOf TableMeetsInfinity
  split
  · rename_i members
    have entries := TypedUnless.mapM categoryEntry_typed members
    simp only [exists_categoryEntry_iff] at entries
    exact entries.of_iff (by simp)
  · rename_i noTable
    apply (TypedUnless.ok _).of_iff
    simp only [false_iff]
    rintro ⟨members, same, _⟩
    exact noTable members same

theorem storedReferences_typed (owner : String) (category : Value) (stored : Option Value) :
    TypedUnless
      (∃ payloads, stored = some (.list payloads) ∧
        Reaches (fun payload => ∃ reference, Reference.decode payload = .ok reference)
          PayloadMeetsInfinity payloads)
      (storedReferences owner category stored) := by
  unfold storedReferences
  split
  · exact (TypedUnless.ok _).of_iff (by simp)
  · exact (TypedUnless.mapM decode_typed _).of_iff (by simp)
  · rename_i noList
    apply (TypedUnless.error (Or.inr (Or.inr rfl))).of_iff
    simp only [false_iff]
    rintro ⟨payloads, same, _⟩
    exact noList payloads (Option.some.inj same)

theorem referencesOf_typed (stored : Option Value) (known : List (String × Int)) (owner : String)
    (category : Value) :
    TypedUnless (CategoryMeetsInfinity stored known category)
      (referencesOf stored known owner category) := by
  rw [referencesOf_eq]
  have looked (id : Int) : TypedUnless ((∃ name, (name, id) ∈ known) ∧
      ∃ payloads, storedUnder? stored category = some (.list payloads) ∧
        Reaches (fun payload => ∃ reference, Reference.decode payload = .ok reference)
          PayloadMeetsInfinity payloads)
      (if known.any fun entry => entry.2 == id then
        storedReferences owner category (storedUnder? stored category)
      else .error (.unknownCategory category.plain owner)) := by
    split
    · rename_i listed
      have named : ∃ name, (name, id) ∈ known := by simpa using listed
      exact (storedReferences_typed _ _ _).of_iff (by simp [named])
    · rename_i unlisted
      have unnamed : ¬∃ name, (name, id) ∈ known := by simpa using unlisted
      exact (TypedUnless.error (Or.inl rfl)).of_iff (by simp [unnamed])
  apply ((integerOr_typed (Or.inl rfl) category).bind looked).of_iff
  unfold CategoryMeetsInfinity
  apply or_congr_right
  constructor
  · rintro ⟨id, number, ⟨name, member⟩, payloads, found, reached⟩
    exact ⟨id, name, payloads, integerOr_eq_ok_iff.mp number, member, found, reached⟩
  · rintro ⟨id, name, payloads, number, member, found, reached⟩
    exact ⟨id, integerOr_eq_ok_iff.mpr number, ⟨name, member⟩, payloads, found, reached⟩

theorem symbolRecord_typed (snapshot : Snapshot) (id : String) :
    TypedUnless False (snapshot.symbolRecord id) := by
  unfold symbolRecord
  split
  · exact TypedUnless.ok _
  · exact TypedUnless.error (Or.inl rfl)

theorem fileRecord_typed (snapshot : Snapshot) (id : String) :
    TypedUnless False (snapshot.fileRecord id) := by
  unfold fileRecord
  split
  · exact TypedUnless.ok _
  · exact TypedUnless.error (Or.inl rfl)

/-! ## Queries -/

theorem symbol_typed (snapshot : Snapshot) (id : Value) :
    TypedUnless ((Query.symbol id).MeetsInfinity snapshot) (snapshot.symbol id) := by
  apply (snapshot.symbolRecord_typed id.plain).after
  intro record
  unfold RecordMeetsInfinity
  split
  · rename_i ranged
    exact ((ofMembers_typed _).bind_pure _).of_iff (by simp [ranged])
  · rename_i unranged
    refine TypedUnless.of_iff
      ((tagsField_typed _ _).after fun tags => (integerField_typed _ _).bind_pure _) ?_
    simp [unranged, exists_tagsField_iff]

theorem file_typed (snapshot : Snapshot) (id : String) : TypedUnless False (snapshot.file id) :=
  (snapshot.fileRecord_typed id).bind_pure _

theorem properties_typed (snapshot : Snapshot) (symbol : String) :
    TypedUnless False (snapshot.properties symbol) := by
  unfold properties
  refine TypedUnless.of_iff
    (@TypedUnless.after _ _ (fun _ => False) _ _ (snapshot.symbolRecord_typed symbol) ?_)
    (by simp)
  intro record
  split
  · exact TypedUnless.ok _
  · exact TypedUnless.ok _

theorem categories_typed (snapshot : Snapshot) (id : Value) :
    TypedUnless ((Query.categories id).MeetsInfinity snapshot) (snapshot.categories id.plain) :=
  (snapshot.symbolRecord_typed id.plain).after fun _ => categoriesOf_typed _

theorem references_typed (snapshot : Snapshot) (id category : Value) :
    TypedUnless ((Query.references id category).MeetsInfinity snapshot)
      (snapshot.references id.plain category) :=
  (snapshot.symbolRecord_typed id.plain).after fun _ =>
    (categoriesOf_typed _).bind fun known => referencesOf_typed _ known _ category

theorem fileCategories_typed (snapshot : Snapshot) (id : Value) :
    TypedUnless ((Query.fileCategories id).MeetsInfinity snapshot)
      (snapshot.fileCategories id.plain) :=
  (snapshot.fileRecord_typed id.plain).after fun _ => categoriesOf_typed _

theorem fileReferences_typed (snapshot : Snapshot) (id category : Value) :
    TypedUnless ((Query.fileReferences id category).MeetsInfinity snapshot)
      (snapshot.fileReferences id.plain category) :=
  (snapshot.fileCategories_typed id).bind fun known => referencesOf_typed _ known _ category

end Snapshot

/-- An answer is a fault exactly if its outcome is. -/
theorem Answer.forall_isTyped_iff {result : Type} {condition : Prop} {answer : result -> Answer}
    {outcome : Except Fault result} (holds : TypedUnless condition outcome)
    (shown : ∀ value fault, answer value ≠ .fault fault) :
    (∀ fault, Answer.ofExcept answer outcome = .fault fault -> fault.kind.IsTyped) ↔
      ¬condition := by
  rw [← holds.forall_isTyped_iff]
  cases outcome with
  | ok value => simp [ofExcept, shown]
  | error cause => simp [ofExcept]

/-- A query fails only in the ways that are meant exactly if it meets no infinite number. -/
theorem Query.forall_isTyped_iff (snapshot : Snapshot) (query : Query) :
    (∀ fault, query.answer snapshot = .fault fault -> fault.kind.IsTyped) ↔
      ¬query.MeetsInfinity snapshot := by
  cases query with
  | symbol id => exact Answer.forall_isTyped_iff (snapshot.symbol_typed id) (by simp)
  | file id => exact Answer.forall_isTyped_iff (snapshot.file_typed id.plain) (by simp)
  | properties id => exact Answer.forall_isTyped_iff (snapshot.properties_typed id.plain) (by simp)
  | categories id => exact Answer.forall_isTyped_iff (snapshot.categories_typed id) (by simp)
  | references id category =>
      exact Answer.forall_isTyped_iff (snapshot.references_typed id category) (by simp)
  | fileCategories id =>
      exact Answer.forall_isTyped_iff (snapshot.fileCategories_typed id) (by simp)
  | fileReferences id category =>
      exact Answer.forall_isTyped_iff (snapshot.fileReferences_typed id category) (by simp)

end RefTree
