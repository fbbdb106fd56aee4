import RefTree.Proofs.Snapshot.Queries

namespace RefTree
namespace Snapshot

open Document

/-!
# Two ids that stand for one number

A host may give the id of a category in any form that holds an integer.  Whether the category is
known is decided by the integer, but the references are then looked up under the plain form of the
id.  So two ids with the same integer are refused alike, and if they are not refused they find what
is stored under two texts, which may be different texts.

What two queries have in common is therefore decided by what can be read under these texts.  It is
the same whenever the texts are, as for an integer and its decimal numeral.
-/

/-- Two outcomes tell a caller the same: they give the same result, or faults of the same kind. -/
def Alike {result : Type} (first second : Except Fault result) : Prop :=
  first.mapError Fault.kind = second.mapError Fault.kind

/-- The references that can be read from what is stored under a text, or the kind of the fault that
this meets.  Neither depends on who asks. -/
def readStored : Option Value -> Except FaultKind (List Reference)
  | none => .ok []
  | some (.list payloads) => (payloads.mapM Reference.decode).mapError Fault.kind
  | some _ => .error .malformed

theorem mapError_storedReferences (owner : String) (category : Value) (stored : Option Value) :
    (storedReferences owner category stored).mapError Fault.kind = readStored stored := by
  cases stored with
  | none => rfl
  | some value => cases value <;> rfl

/-- A step that both queries take first makes no difference if it fails. -/
theorem bind_alike_iff {middle result : Type} {step : Except Fault middle}
    {first second : middle -> Except Fault result} :
    Alike (step >>= first) (step >>= second) ↔
      ∀ value, step = .ok value -> Alike (first value) (second value) := by
  cases step with
  | error fault =>
      simp only [Outcome.error_bind, reduceCtorEq, false_implies, implies_true, iff_true]
      rfl
  | ok value => simp only [Outcome.ok_bind, Except.ok.injEq, forall_eq']

theorem categoryNumber_eq_ok {category : Value} {number : Int}
    (holds : category.integer = .ok number) : categoryNumber category = .ok number := by
  rw [categoryNumber, integerOr, holds]

/-- Two ids of one category that is known find the same exactly if the same can be read under their
plain forms.  If it is not known, both are refused. -/
theorem referencesOf_alike_iff {first second : Value} {number : Int}
    (firstHolds : first.integer = .ok number) (secondHolds : second.integer = .ok number)
    (stored : Option Value) (known : List (String × Int)) (owner : String) :
    Alike (referencesOf stored known owner first) (referencesOf stored known owner second) ↔
      ∀ name, (name, number) ∈ known ->
        readStored (storedUnder? stored first) = readStored (storedUnder? stored second) := by
  rw [referencesOf_eq, referencesOf_eq, categoryNumber_eq_ok firstHolds,
    categoryNumber_eq_ok secondHolds, Outcome.ok_bind, Outcome.ok_bind]
  by_cases listed : (known.any fun entry => entry.2 == number) = true
  · obtain ⟨name, member⟩ : ∃ name, (name, number) ∈ known := by simpa using listed
    rw [if_pos listed, if_pos listed, Alike, mapError_storedReferences, mapError_storedReferences]
    constructor
    · intro same _ _
      exact same
    · intro same
      exact same name member
  · have unlisted : ∀ name, (name, number) ∉ known := by simpa using listed
    rw [if_neg listed, if_neg listed]
    constructor
    · intro _ name member
      exact absurd member (unlisted name)
    · intro _
      rfl

theorem references_alike_iff (snapshot : Snapshot) (symbol : String) {first second : Value}
    {number : Int} (firstHolds : first.integer = .ok number)
    (secondHolds : second.integer = .ok number) :
    Alike (snapshot.references symbol first) (snapshot.references symbol second) ↔
      ∀ record, snapshot.symbolRecord symbol = .ok record ->
        ∀ known, recordedCategories record = .ok known -> ∀ name, (name, number) ∈ known ->
          readStored (storedUnder? (Members.find? "references" record) first) =
            readStored (storedUnder? (Members.find? "references" record) second) := by
  simp only [references, bind_alike_iff, referencesOf_alike_iff firstHolds secondHolds,
    recordedCategories]

theorem fileReferences_alike_iff (snapshot : Snapshot) (file : String) {first second : Value}
    {number : Int} (firstHolds : first.integer = .ok number)
    (secondHolds : second.integer = .ok number) :
    Alike (snapshot.fileReferences file first) (snapshot.fileReferences file second) ↔
      ∀ known, snapshot.fileCategories file = .ok known -> ∀ name, (name, number) ∈ known ->
        readStored (storedUnder? (Members.find? file (snapshot.table "file_references")) first) =
          readStored
            (storedUnder? (Members.find? file (snapshot.table "file_references")) second) := by
  simp only [fileReferences, bind_alike_iff, referencesOf_alike_iff firstHolds secondHolds]

/-- What is stored under a category is found by its plain form. -/
theorem storedUnder?_of_plain_eq {first second : Value} (same : first.plain = second.plain)
    (stored : Option Value) : storedUnder? stored first = storedUnder? stored second := by
  simp only [storedUnder?, same]

/-- Two ids that hold the same integer find the same references, or fail in the same way, exactly if
the category is not known or the same can be read from what is stored under their plain forms.  This
is so for symbols and for files, and always if the plain forms are the same. -/
theorem equal_numbers_find_the_same_iff (snapshot : Snapshot) {first second : Value} {number : Int}
    (firstHolds : first.integer = .ok number) (secondHolds : second.integer = .ok number)
    (id : String) :
    (Alike (snapshot.references id first) (snapshot.references id second) ↔
      ∀ record, snapshot.symbolRecord id = .ok record ->
        ∀ known, recordedCategories record = .ok known -> ∀ name, (name, number) ∈ known ->
          readStored (storedUnder? (Members.find? "references" record) first) =
            readStored (storedUnder? (Members.find? "references" record) second)) ∧
    (Alike (snapshot.fileReferences id first) (snapshot.fileReferences id second) ↔
      ∀ known, snapshot.fileCategories id = .ok known -> ∀ name, (name, number) ∈ known ->
        readStored (storedUnder? (Members.find? id (snapshot.table "file_references")) first) =
          readStored
            (storedUnder? (Members.find? id (snapshot.table "file_references")) second)) ∧
    (first.plain = second.plain ->
      Alike (snapshot.references id first) (snapshot.references id second) ∧
        Alike (snapshot.fileReferences id first) (snapshot.fileReferences id second)) := by
  have ofSymbol := references_alike_iff snapshot id firstHolds secondHolds
  have ofFile := fileReferences_alike_iff snapshot id firstHolds secondHolds
  refine ⟨ofSymbol, ofFile, ?_⟩
  intro samePlain
  constructor
  · apply ofSymbol.mpr
    intro record _ known _ name _
    rw [storedUnder?_of_plain_eq samePlain]
  · apply ofFile.mpr
    intro known _ name _
    rw [storedUnder?_of_plain_eq samePlain]

namespace PaddedNumber

/-- A symbol and a file with one usage each, stored under zero. -/
def snapshot : Snapshot where
  members :=
    let usage : Value := .object [("id", .text "u"), ("range", .object [("file", .text "f")])]
    let categories : Value := .object [("Usage", .int 0)]
    let lists : Value := .object [("0", .list [usage])]
    [("files", .object [("f", .object [])]),
      ("symbols", .object [("s", .object [("reference_types", categories),
        ("references", lists)])]),
      ("file_reference_types", .object [("f", categories)]),
      ("file_references", .object [("f", lists)])]

/-- The number zero that is written with a fraction. -/
def zeroPointZero : Value :=
  .double (.finite false 0 (-1074))

/-- The numeral of a number finds what the number finds, and a padded numeral does not. -/
theorem numeral_finds_the_same_unless_padded :
    (Value.int 0).integer = .ok 0 ∧ (Value.text "0").integer = .ok 0 ∧
      (Value.text "00").integer = .ok 0 ∧
      Alike (snapshot.references "s" (.int 0)) (snapshot.references "s" (.text "0")) ∧
      Alike (snapshot.fileReferences "f" (.int 0)) (snapshot.fileReferences "f" (.text "0")) ∧
      ¬Alike (snapshot.references "s" (.int 0)) (snapshot.references "s" (.text "00")) := by
  have plain : (Value.int 0).integer = .ok 0 := rfl
  have numeral : (Value.text "0").integer = .ok 0 := rfl
  have padded : (Value.text "00").integer = .ok 0 := rfl
  have same := (equal_numbers_find_the_same_iff snapshot plain numeral "s").2.2 rfl
  have sameOfFile := (equal_numbers_find_the_same_iff snapshot plain numeral "f").2.2 rfl
  refine ⟨plain, numeral, padded, same.1, sameOfFile.2, ?_⟩
  intro alike
  have read := (equal_numbers_find_the_same_iff snapshot plain padded "s").1.mp alike _ rfl _ rfl
    "Usage" List.mem_cons_self
  cases read

/-- Zero is asked for in two spellings, and only one of them finds the usage. -/
theorem padded_number_finds_nothing :
    ∃ usage, snapshot.references "s" (.int 0) = .ok [usage] ∧
      (Value.text "00").integer = (Value.int 0).integer ∧
      snapshot.references "s" (.text "00") = .ok [] ∧
      snapshot.fileReferences "f" (.int 0) = .ok [usage] ∧
      zeroPointZero.integer = (Value.int 0).integer ∧
      snapshot.fileReferences "f" zeroPointZero = .ok [] := by
  have zero : zeroPointZero.integer = .ok 0 := by decide +kernel
  have known : snapshot.fileCategories "f" = .ok [("Usage", 0)] := rfl
  refine ⟨_, rfl, rfl, rfl, rfl, zero, ?_⟩
  rw [fileReferences, known, Outcome.ok_bind]
  apply referencesOf_eq_ok_iff.mpr
  exact ⟨0, "Usage", categoryNumber_eq_ok zero, List.mem_cons_self, rfl⟩

end PaddedNumber

end Snapshot
end RefTree
