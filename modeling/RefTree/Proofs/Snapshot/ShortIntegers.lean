import RefTree.Proofs.Document.RoundTrip
import RefTree.Proofs.Snapshot.AddedRange

namespace RefTree

open Document

/-!
# Integers of a loaded snapshot

An integer can only be written if it has no more than `maxDigits` digits.  The functions that write
integers in ids, labels and messages do not check this, and for a snapshot that was loaded they need
not.  The reader lets no longer integer pass, no numeral in a text may be longer, and no double is
that large.  So every integer that a query finds in a loaded snapshot can be written.
-/

/-! ## Integers of values -/

namespace Document

theorem Value.IsProper.digitCount_le {value : Value} {n : Int} (proper : value.IsProper)
    (stands : value.StandsFor n) : digitCount n ≤ Number.maxDigits := by
  cases stands with
  | int n => exact proper
  | double finite => exact proper _ (Value.double_standsFor_iff.mp (.double finite))
  | text numeral => exact digitCount_le_iff.mpr numeral.natAbs_lt

theorem Members.mem_of_find? {name : String} {members : Members} {value : Value}
    (found : find? name members = some value) : (name, value) ∈ members := by
  induction members with
  | nil => cases found
  | cons head rest inductionHypothesis =>
      unfold find? at found
      split at found
      · rename_i same
        cases found
        subst same
        exact List.mem_cons_self
      · exact List.mem_cons_of_mem _ (inductionHypothesis found)

/-- A field that may be missing, and is proper in all its parts if it is there. -/
def HoldsProper (field : Option Value) : Prop :=
  ∀ value ∈ field, value.Everywhere Value.IsProper

theorem Value.Everywhere.holdsProper {members : Members}
    (proper : (Value.object members).Everywhere Value.IsProper) (name : String) :
    HoldsProper (Members.find? name members) :=
  fun _ found => proper.of_mem (Members.mem_of_find? found)

end Document

theorem digitCount_le_of_integerMember {members : Members} {name : String} {field : IntegerField}
    {n : Int} (proper : HoldsProper (Members.find? name members))
    (read : integerMember members name field = .ok n) : digitCount n ≤ Number.maxDigits := by
  rw [integerMember_eq_ok_iff] at read
  cases found : Members.find? name members with
  | none =>
      rw [found] at read
      cases read
      decide
  | some value =>
      rw [found] at read
      exact (proper value found).here.digitCount_le read

theorem isProper_startPosition {range : Members}
    (proper : (Value.object range).Everywhere Value.IsProper) :
    (Value.object (startPosition range)).Everywhere Value.IsProper := by
  unfold startPosition
  split
  · rename_i found
    exact proper.holdsProper "startpos" _ found
  · exact .of_scalar List.nodup_nil rfl

/-! ## References -/

namespace Reference

/-- The integers of a reference can be written. -/
structure IsShort (reference : Reference) : Prop where
  position : ∀ range ∈ reference.range,
    digitCount range.line ≤ Number.maxDigits ∧ digitCount range.column ≤ Number.maxDigits
  nameHash : digitCount reference.nameHash ≤ Number.maxDigits

theorem isShort_of_ofMembers {members : Members} {reference : Reference}
    (range : HoldsProper (Members.find? "range" members))
    (nameHash : HoldsProper (Members.find? "mangled_name_hash" members))
    (read : ofMembers members = .ok reference) : reference.IsShort := by
  rcases ofMembers_eq_ok_iff.mp read with ⟨_, parts, _, _, _, _, _, _, rangeFound, _, _, lineRead,
    columnRead, hashRead, rfl⟩
  have start := isProper_startPosition (range _ rangeFound)
  refine ⟨?_, digitCount_le_of_integerMember nameHash hashRead⟩
  intro position same
  cases same
  exact ⟨digitCount_le_of_integerMember (start.holdsProper "line") lineRead,
    digitCount_le_of_integerMember (start.holdsProper "column") columnRead⟩

theorem isShort_of_decode {payload : Value} {reference : Reference}
    (proper : payload.Everywhere Value.IsProper) (read : decode payload = .ok reference) :
    reference.IsShort := by
  rcases decode_eq_ok_iff.mp read with ⟨members, rfl, membersRead⟩
  exact isShort_of_ofMembers (proper.holdsProper "range") (proper.holdsProper "mangled_name_hash")
    membersRead

end Reference

/-! ## Queries -/

namespace Snapshot

theorem isShort_of_categoriesOf {table : Option Value} {known : List (String × Int)}
    (proper : HoldsProper table) (listed : categoriesOf table = .ok known) :
    ∀ entry ∈ known, digitCount entry.2 ≤ Number.maxDigits := by
  intro entry member
  unfold categoriesOf at listed
  split at listed
  · rename_i members
    rcases Outcome.exists_of_mem_mapM listed member with ⟨stored, belongs, read⟩
    rcases Outcome.bind_pure_eq_ok_iff.mp read with ⟨id, held, rfl⟩
    rw [integerField_eq, integerOr_eq_ok_iff, Value.integer_eq_ok_iff] at held
    exact ((proper _ rfl).of_mem belongs).here.digitCount_le held
  · cases listed
    cases member

theorem isShort_of_referencesOf {stored : Option Value} {known : List (String × Int)}
    {owner : String} {category : Value} {found : List Reference} (proper : HoldsProper stored)
    (answered : referencesOf stored known owner category = .ok found) :
    ∀ reference ∈ found, reference.IsShort := by
  intro reference member
  rcases referencesOf_eq_ok_iff.mp answered with ⟨_, _, _, _, read⟩
  unfold storedReferences at read
  split at read
  · cases read
    cases member
  · rename_i payloads under
    rcases Outcome.exists_of_mem_mapM read member with ⟨payload, belongs, decoded⟩
    unfold storedUnder? at under
    split at under
    · have list := (proper _ rfl).holdsProper category.plain _ under
      exact Reference.isShort_of_decode (list.inside payload belongs) decoded
    · cases under
  · cases read

section Loaded

variable {snapshot : Snapshot} (proper : snapshot.document.Everywhere Value.IsProper)

include proper

theorem isProper_table (name : String) :
    (Value.object (snapshot.table name)).Everywhere Value.IsProper := by
  unfold table
  split
  · rename_i found
    exact proper.holdsProper name _ found
  · exact .of_scalar List.nodup_nil rfl

theorem isProper_of_symbolRecord {id : String} {record : Members}
    (recorded : snapshot.symbolRecord id = .ok record) :
    (Value.object record).Everywhere Value.IsProper := by
  unfold symbolRecord at recorded
  split at recorded
  · rename_i found
    cases recorded
    exact (isProper_table proper "symbols").holdsProper id _ found
  · cases recorded

theorem isShort_of_symbol {id : Value} {symbol : Symbol}
    (found : snapshot.symbol id = .ok symbol) : symbol.IsShort := by
  rcases Outcome.bind_eq_ok_iff.mp found with ⟨record, recorded, read⟩
  have recordProper := isProper_of_symbolRecord proper recorded
  split at read
  · rcases Outcome.bind_pure_eq_ok_iff.mp read with ⟨reference, membersRead, rfl⟩
    have range := find?_symbolPayload (show "range" ≠ "id" by decide) id record
    have nameHash := find?_symbolPayload (show "mangled_name_hash" ≠ "id" by decide) id record
    exact Reference.isShort_of_ofMembers (range ▸ recordProper.holdsProper "range")
      (nameHash ▸ recordProper.holdsProper "mangled_name_hash") membersRead
  · simp only [Outcome.bind_eq_ok_iff, Outcome.pure_eq_ok, Except.ok.injEq] at read
    rcases read with ⟨tags, _, nameHash, hashRead, rfl⟩
    exact ⟨nofun,
      digitCount_le_of_integerMember (recordProper.holdsProper "mangled_name_hash") hashRead⟩

theorem isShort_of_categories {symbol : String} {known : List (String × Int)}
    (listed : snapshot.categories symbol = .ok known) :
    ∀ entry ∈ known, digitCount entry.2 ≤ Number.maxDigits := by
  rcases Outcome.bind_eq_ok_iff.mp listed with ⟨record, recorded, read⟩
  exact isShort_of_categoriesOf
    ((isProper_of_symbolRecord proper recorded).holdsProper "reference_types") read

theorem isShort_of_references {symbol : String} {category : Value} {found : List Reference}
    (answered : snapshot.references symbol category = .ok found) :
    ∀ reference ∈ found, reference.IsShort := by
  unfold references at answered
  simp only [Outcome.bind_eq_ok_iff] at answered
  rcases answered with ⟨record, recorded, known, _, read⟩
  exact isShort_of_referencesOf
    ((isProper_of_symbolRecord proper recorded).holdsProper "references") read

theorem isShort_of_fileCategories {file : String} {known : List (String × Int)}
    (listed : snapshot.fileCategories file = .ok known) :
    ∀ entry ∈ known, digitCount entry.2 ≤ Number.maxDigits := by
  rcases Outcome.bind_eq_ok_iff.mp listed with ⟨_, _, read⟩
  exact isShort_of_categoriesOf ((isProper_table proper _).holdsProper file) read

theorem isShort_of_fileReferences {file : String} {category : Value} {found : List Reference}
    (answered : snapshot.fileReferences file category = .ok found) :
    ∀ reference ∈ found, reference.IsShort := by
  rcases Outcome.bind_eq_ok_iff.mp answered with ⟨_, _, read⟩
  exact isShort_of_referencesOf ((isProper_table proper _).holdsProper file) read

end Loaded

/-- A snapshot that was loaded is proper in all its parts. -/
theorem isProper_of_load {path : Path} {entry : Entry} {snapshot : Snapshot}
    (loaded : load path entry = .ok snapshot) :
    snapshot.document.Everywhere Value.IsProper := by
  rcases Outcome.bind_eq_ok_iff.mp loaded with ⟨value, read, taken⟩
  have same : value = snapshot.document := by
    unfold ofValue at taken
    split at taken
    · cases taken
      rfl
    · cases taken
  rw [← same]
  cases entry with
  | file octets =>
      simp only [documentAt] at read
      split at read
      · rename_i found
        cases read
        exact isProper_of_ofOctets found
      · cases read
      · cases read
      · cases read
  | missing | tooLong | directory | unreadable => cases read

end Snapshot

/-! ## Answers -/

/-- The integers of an answer to a query can be written. -/
def Answer.IsShort : Answer -> Prop
  | .symbol found => found.IsShort
  | .categories known => ∀ entry ∈ known, digitCount entry.2 ≤ Number.maxDigits
  | .references found => ∀ reference ∈ found, reference.IsShort
  | _ => True

theorem Answer.isShort_ofExcept {result : Type} {answer : result -> Answer}
    {outcome : Except Fault result}
    (short : ∀ value, outcome = .ok value -> (answer value).IsShort) :
    (Answer.ofExcept answer outcome).IsShort := by
  cases outcome with
  | ok value => exact short value rfl
  | error fault => trivial

/-- No query finds an integer in a loaded snapshot that could not be written. -/
theorem Query.isShort_answer_of_load {path : Path} {entry : Entry} {snapshot : Snapshot}
    (loaded : Snapshot.load path entry = .ok snapshot) (query : Query) :
    (query.answer snapshot).IsShort := by
  have proper := Snapshot.isProper_of_load loaded
  cases query with
  | symbol id => exact Answer.isShort_ofExcept fun _ => Snapshot.isShort_of_symbol proper
  | file id => exact Answer.isShort_ofExcept fun _ _ => trivial
  | properties id => exact Answer.isShort_ofExcept fun _ _ => trivial
  | categories id => exact Answer.isShort_ofExcept fun _ => Snapshot.isShort_of_categories proper
  | references id category =>
      exact Answer.isShort_ofExcept fun _ => Snapshot.isShort_of_references proper
  | fileCategories id =>
      exact Answer.isShort_ofExcept fun _ => Snapshot.isShort_of_fileCategories proper
  | fileReferences id category =>
      exact Answer.isShort_ofExcept fun _ => Snapshot.isShort_of_fileReferences proper

end RefTree
