import Mathlib.Data.List.Sort
import RefTree.Proofs.Document.HeldInteger
import RefTree.Proofs.Snapshot.Infinity

namespace RefTree

open Document

/-!
# Which payloads describe a reference

A payload can be of any form, and its reader takes what it needs from nine places in it.  Here it
is said what has to stand in these places, and which reference is then read.  Nothing else in the
payload matters, and neither does the order in which the reader looks at the places: that order only
decides which of several faults is reported.
-/

/-! ## Tags as a set -/

theorem pairwise_insertTag {tag : String} {tags : List String} (sorted : tags.Pairwise (· < ·)) :
    (insertTag tag tags).Pairwise (· < ·) := by
  induction tags with
  | nil => exact List.pairwise_singleton _ _
  | cons head rest inductionHypothesis =>
      rcases List.pairwise_cons.mp sorted with ⟨first, later⟩
      by_cases same : tag = head
      · rw [insertTag, if_pos same]
        exact sorted
      · by_cases before : tag < head
        · rw [insertTag, if_neg same, if_pos before]
          apply List.pairwise_cons.mpr
          refine ⟨?_, sorted⟩
          intro other member
          rcases List.mem_cons.mp member with rfl | behind
          · exact before
          · exact String.lt_trans before (first other behind)
        · rw [insertTag, if_neg same, if_neg before]
          apply List.pairwise_cons.mpr
          refine ⟨?_, inductionHypothesis later⟩
          intro other member
          rcases (mem_insertTag _ _ _).mp member with rfl | behind
          · exact Std.lt_of_le_of_ne (String.not_lt.mp before) (Ne.symm same)
          · exact first other behind

/-- A set of tags is held in increasing order, so no tag occurs twice. -/
theorem pairwise_tagSet (tags : List String) : (tagSet tags).Pairwise (· < ·) := by
  induction tags with
  | nil => exact List.Pairwise.nil
  | cons tag rest inductionHypothesis => exact pairwise_insertTag inductionHypothesis

/-- Tags that are the same up to order and repetition have the same set. -/
theorem tagSet_congr {first second : List String} (same : ∀ tag, tag ∈ first ↔ tag ∈ second) :
    tagSet first = tagSet second := by
  apply (pairwise_tagSet first).eq_of_mem_iff (pairwise_tagSet second)
  intro tag
  rw [mem_tagSet, mem_tagSet, same]

/-! ## Single fields -/

/-- The elements that stand for tags.  There are none in what is no list. -/
def tagElements : Option Value -> List Value
  | some (.list elements) => elements
  | _ => []

theorem tagElements_of_no_list {value : Value} (noList : ∀ elements, value ≠ .list elements) :
    tagElements (some value) = [] := by
  cases value with
  | list elements => exact absurd rfl (noList elements)
  | null | bool _ | int _ | double _ | text _ | object _ => rfl

theorem eq_tagSet_of_tagsField {owner : String} {field : Option Value} {tags : List String}
    (read : tagsField owner field = .ok tags) :
    tags = tagSet ((tagElements field).map Value.plain) := by
  rw [tagsField.eq_def] at read
  split at read
  · cases read
    rfl
  · cases read
    rfl
  · rename_i value noList
    rw [tagElements_of_no_list noList]
    split at read
    · cases read
      rfl
    · cases read

theorem tagsField_eq_ok_iff {owner : String} {field : Option Value} {tags : List String} :
    tagsField owner field = .ok tags ↔
      HoldsTags field ∧ tags = tagSet ((tagElements field).map Value.plain) := by
  rw [← exists_tagsField_iff]
  constructor
  · intro read
    exact ⟨⟨tags, read⟩, eq_tagSet_of_tagsField read⟩
  · rintro ⟨⟨others, read⟩, rfl⟩
    rw [read, eq_tagSet_of_tagsField read]

/-- A range names a file by any value but null and the empty text. -/
theorem fileField?_eq_some_iff {range : Members} {file : String} :
    fileField? range = some file ↔
      ∃ value, Members.find? "file" range = some value ∧ value ≠ .null ∧ value ≠ .text "" ∧
        file = value.plain := by
  rw [fileField?.eq_def]
  cases Members.find? "file" range with
  | none => simp
  | some value =>
      cases value with
      | null => simp
      | text text =>
          by_cases empty : text = ""
          · simp [empty]
          · simp [empty, Value.plain, eq_comm]
      | bool _ | int _ | double _ | list _ | object _ => simp [eq_comm]

theorem integerMember_eq_ok_iff {members : Members} {name : String} {field : IntegerField}
    {n : Int} :
    integerMember members name field = .ok n ↔
      ((Members.find? name members).getD (.int 0)).StandsFor n := by
  rw [integerMember, integerField_eq, integerOr_eq_ok_iff, Value.integer_eq_ok_iff]

theorem plainField_eq (field : Option Value) :
    plainField field = (field.map Value.plain).getD "" := by
  cases field with
  | none => rfl
  | some value => rfl

namespace Reference

/-! ## Whole payloads -/

/-- What has to stand in the members of a payload and in those of its range. -/
structure IsReadable (members range : Members) : Prop where
  hasId : ∃ value, Members.find? "id" members = some value
  hasRange : Members.find? "range" members = some (.object range)
  hasFile : ∃ value, Members.find? "file" range = some value ∧ value ≠ .null ∧ value ≠ .text ""
  hasTags : HoldsTags (Members.find? "tags" members)
  hasIntegers : ∀ value ∈ payloadIntegers members range, ∃ n, value.StandsFor n

/-- A position is the one that the members of a range describe. -/
structure DescribesPosition (range : Members) (position : SourceRange) : Prop where
  file : ∃ value, Members.find? "file" range = some value ∧ position.file = value.plain
  fileNamed : position.file ≠ ""
  line : ((Members.find? "line" (startPosition range)).getD (.int 0)).StandsFor position.line
  column : ((Members.find? "column" (startPosition range)).getD (.int 0)).StandsFor position.column

/-- A reference is the one that the members of a payload and of its range describe. -/
structure Describes (members range : Members) (reference : Reference) : Prop where
  id : ∃ value, Members.find? "id" members = some value ∧ reference.id = value.plain
  position : ∃ position, reference.range = some position ∧ DescribesPosition range position
  displayValue :
    reference.displayValue = ((Members.find? "display_value" members).map Value.plain).getD ""
  nameHash :
    ((Members.find? "mangled_name_hash" members).getD (.int 0)).StandsFor reference.nameHash
  memTags : ∀ tag, tag ∈ reference.tags ↔
    ∃ element ∈ tagElements (Members.find? "tags" members), element.plain = tag
  tagsOrdered : reference.tags.Pairwise (· < ·)

/-- Nothing more is needed for a reference to be read. -/
theorem IsReadable.exists_ofMembers {members range : Members}
    (readable : IsReadable members range) : ∃ reference, ofMembers members = .ok reference := by
  rcases readable.hasId with ⟨idValue, idFound⟩
  rcases readable.hasFile with ⟨fileValue, fileFound, notNull, notEmpty⟩
  have integers := readable.hasIntegers
  simp only [payloadIntegers, List.forall_mem_cons] at integers
  rcases integers with ⟨⟨line, lineHeld⟩, ⟨column, columnHeld⟩, ⟨nameHash, hashHeld⟩, _⟩
  have fileRead := fileField?_eq_some_iff.mpr ⟨fileValue, fileFound, notNull, notEmpty, rfl⟩
  exact ⟨_, ofMembers_eq_ok_iff.mpr ⟨idValue, range, _, _, line, column, nameHash, idFound,
    readable.hasRange, fileRead, tagsField_eq_ok_iff.mpr ⟨readable.hasTags, rfl⟩,
    integerMember_eq_ok_iff.mpr lineHeld, integerMember_eq_ok_iff.mpr columnHeld,
    integerMember_eq_ok_iff.mpr hashHeld, rfl⟩⟩

/-- All of it is needed, and the reference is the one that is described. -/
theorem isReadable_and_describes_of_ofMembers {members : Members} {reference : Reference}
    (read : ofMembers members = .ok reference) :
    ∃ range, IsReadable members range ∧ Describes members range reference := by
  rcases ofMembers_eq_ok_iff.mp read with ⟨idValue, range, file, tags, line, column, nameHash,
    idFound, rangeFound, fileRead, tagsRead, lineRead, columnRead, hashRead, rfl⟩
  rcases fileField?_eq_some_iff.mp fileRead with
    ⟨fileValue, fileFound, notNull, notEmpty, fileShown⟩
  rcases tagsField_eq_ok_iff.mp tagsRead with ⟨hasTags, rfl⟩
  rw [integerMember_eq_ok_iff] at lineRead columnRead hashRead
  refine ⟨range, ?_, ?_⟩
  · refine ⟨⟨idValue, idFound⟩, rangeFound, ⟨fileValue, fileFound, notNull, notEmpty⟩, hasTags, ?_⟩
    simp only [payloadIntegers, List.forall_mem_cons]
    exact ⟨⟨line, lineRead⟩, ⟨column, columnRead⟩, ⟨nameHash, hashRead⟩, List.forall_mem_nil _⟩
  · refine ⟨⟨idValue, idFound, rfl⟩, ⟨_, rfl, ?_⟩, plainField_eq _, hashRead, ?_, pairwise_tagSet _⟩
    · exact ⟨⟨fileValue, fileFound, fileShown⟩, fileField?_ne_empty fileRead, lineRead, columnRead⟩
    · intro tag
      rw [mem_tagSet, List.mem_map]

theorem decode_eq_ok_iff {payload : Value} {reference : Reference} :
    decode payload = .ok reference ↔
      ∃ members, payload = .object members ∧ ofMembers members = .ok reference := by
  cases payload with
  | object members => simp [decode]
  | null | bool _ | int _ | double _ | text _ | list _ => simp [decode]

/-- A payload gives a reference exactly if it is an object that is readable with its range.  The
reference is then the one that the payload describes, and it can be shown. -/
theorem readable_payloads_give_references (payload : Value) :
    ((∃ reference, decode payload = .ok reference) ↔
      ∃ members range, payload = .object members ∧ IsReadable members range) ∧
    ∀ reference, decode payload = .ok reference ->
      (∃ members range, payload = .object members ∧
        Members.find? "range" members = some (.object range) ∧
        Describes members range reference) ∧
      (∃ position, reference.located = .ok position) ∧
      ∃ label, reference.label = .ok label := by
  refine ⟨⟨?_, ?_⟩, ?_⟩
  · rintro ⟨reference, read⟩
    rcases decode_eq_ok_iff.mp read with ⟨members, rfl, membersRead⟩
    rcases isReadable_and_describes_of_ofMembers membersRead with ⟨range, readable, _⟩
    exact ⟨members, range, rfl, readable⟩
  · rintro ⟨members, range, rfl, readable⟩
    exact readable.exists_ofMembers
  · intro reference read
    have isLocated := isLocated_of_decode read
    rcases decode_eq_ok_iff.mp read with ⟨members, rfl, membersRead⟩
    rcases isReadable_and_describes_of_ofMembers membersRead with ⟨range, readable, describes⟩
    exact ⟨⟨members, range, rfl, readable.hasRange, describes⟩, isLocated, isLocated.exists_label⟩

/-- A payload with none of its parts in the usual form: numbers stand for texts and texts for
numbers, a line is a fraction, and a tag is repeated. -/
def oddPayload : Value :=
  .object
    [("id", .int 7),
      ("range", .object
        [("file", .int 3),
          ("startpos", .object
            [("line", .double (.finite false 5348024557502464 (-49))),
              ("column", .text " +1_0 ")])]),
      ("tags", .list [.text "static", .int 5, .text "static"]),
      ("mangled_name_hash", .text "-٤٢")]

def oddReference : Reference where
  id := "7"
  range := some ⟨"3", 9, 10⟩
  displayValue := ""
  tags := ["5", "static"]
  nameHash := -42

theorem odd_payload_gives_odd_reference :
    decode oddPayload = .ok oddReference ∧
    (∃ members range, oddPayload = .object members ∧ IsReadable members range) ∧
    (∃ members range, oddPayload = .object members ∧
      Members.find? "range" members = some (.object range) ∧
      Describes members range oddReference) ∧
    ∃ label, oddReference.label = .ok label := by
  have read : decode oddPayload = .ok oddReference := rfl
  rcases readable_payloads_give_references oddPayload with ⟨readable, described⟩
  rcases described oddReference read with ⟨describes, _, labelled⟩
  exact ⟨read, readable.mp ⟨oddReference, read⟩, describes, labelled⟩

end Reference

end RefTree
