import Mathlib.Logic.Relation
import RefTree.Proofs.Document.Contents
import RefTree.Proofs.Reference.Payload

namespace RefTree

open Document

/-!
# Payloads that are spelled differently

The same payload can be written in many ways.  An integer may give way to its numeral, members may
come in another order or among members that nobody reads, and tags may be reordered and repeated.
Each of these is one change, made in the payload itself or in an object inside it; two payloads are
spelled alike if changes, made forwards and backwards, lead from one to the other.

A change is seen only through the members that are looked up.  So the argument has two parts: what a
look-up can find after a change, and that each reader takes the two things that are found alike.
-/

namespace Document

/-- An integer gives way to its numeral. -/
inductive AsNumeral : Value -> Value -> Prop
  | intro {n : Int} (short : digitCount n ≤ Number.maxDigits) :
      AsNumeral (.int n) (.text (Number.integerText n))

theorem AsNumeral.plain_eq {old new : Value} (numeral : AsNumeral old new) :
    old.plain = new.plain := by
  cases numeral with
  | intro short => rfl

theorem AsNumeral.exists_integer {old new : Value} (numeral : AsNumeral old new) :
    ∃ n, old.integer = .ok n ∧ new.integer = .ok n := by
  cases numeral with
  | @intro n short =>
      refine ⟨n, rfl, Value.integer_eq_ok_iff.mpr ?_⟩
      exact Value.text_standsFor_iff.mpr (Number.integer?_integerText short)

/-! ## Looking up members after a change -/

/-- Two look-ups find the same, or a value and what it was changed to. -/
def FoundAlike (change : Value -> Value -> Prop) (first second : Option Value) : Prop :=
  first = second ∨ ∃ old new, first = some old ∧ second = some new ∧ change old new

namespace FoundAlike

variable {change : Value -> Value -> Prop} {first second : Option Value}

/-- A reader that takes changed values alike reads the same from both. -/
theorem read_eq (found : FoundAlike change first second) {result : Type}
    (read : Option Value -> result)
    (alike : ∀ old new, change old new -> read (some old) = read (some new)) :
    read first = read second := by
  rcases found with same | ⟨old, new, firstFound, secondFound, changed⟩
  · rw [same]
  · rw [firstFound, secondFound, alike old new changed]

/-- Nothing differs where no change is allowed. -/
theorem eq (found : FoundAlike (fun _ _ => False) first second) : first = second := by
  rcases found with same | ⟨_, _, _, _, impossible⟩
  · exact same
  · exact impossible.elim

end FoundAlike

namespace Members

theorem find?_append (name : String) (first second : Members) :
    find? name (first ++ second) = (find? name first).or (find? name second) := by
  induction first with
  | nil => rfl
  | cons head rest inductionHypothesis =>
      rw [List.cons_append, find?, find?]
      split
      · rfl
      · exact inductionHypothesis

/-- Erasing a member leaves the values of all other members alone. -/
theorem find?_erase_of_ne {name other : String} (different : name ≠ other) (members : Members) :
    find? name (erase other members) = find? name members := by
  induction members with
  | nil => rfl
  | cons head rest inductionHypothesis =>
      rw [erase] at inductionHypothesis ⊢
      by_cases erased : head.1 = other
      · have missed : head.1 ≠ name := fun found => different (found.symm.trans erased)
        rw [List.filter_cons_of_neg (by simp [erased]), inductionHypothesis, find?, if_neg missed]
      · rw [List.filter_cons_of_pos (by simp [erased]), find?, find?, inductionHypothesis]

/-- Members of distinct names are found in any order. -/
theorem find?_eq_of_perm {first second : Members} (moved : first.Perm second)
    (distinct : first.names.Nodup) (name : String) : find? name first = find? name second := by
  induction moved with
  | nil => rfl
  | cons head _ inductionHypothesis =>
      have later := inductionHypothesis (List.nodup_cons.mp distinct).2
      rw [find?, find?, later]
  | swap upper lower rest =>
      have different : lower.1 ≠ upper.1 := by
        intro same
        exact (List.nodup_cons.mp distinct).1 (same ▸ List.mem_cons_self)
      by_cases found : lower.1 = name
      · have other : upper.1 ≠ name := fun same => different (found.trans same.symm)
        simp only [find?, found, other, if_true, if_false]
      · simp only [find?, found, if_false]
  | trans before _ firstHypothesis secondHypothesis =>
      have distinctBetween := (before.map Prod.fst).nodup distinct
      exact (firstHypothesis distinct).trans (secondHypothesis distinctBetween)

/-- One change in how members are written, given the names that are read and the changes that their
values allow: the members are reordered, or one that is not read is added, or one is changed.  As in
every object that is read from a text, the names of members that are reordered are distinct. -/
inductive Respelled (reads : List String) (change : String -> Value -> Value -> Prop) :
    Members -> Members -> Prop
  | reordered {first second : Members} (distinct : first.names.Nodup)
      (moved : first.Perm second) : Respelled reads change first second
  | added {before after : Members} {name : String} {value : Value} (unread : name ∉ reads) :
      Respelled reads change (before ++ after) (before ++ (name, value) :: after)
  | changed {before after : Members} {name : String} {old new : Value}
      (respelled : change name old new) :
      Respelled reads change (before ++ (name, old) :: after) (before ++ (name, new) :: after)

/-- What is found under a name that is read stays the same or changes as its value may. -/
theorem Respelled.foundAlike {reads : List String} {change : String -> Value -> Value -> Prop}
    {first second : Members} (respelled : Respelled reads change first second) {name : String}
    (read : name ∈ reads) : FoundAlike (change name) (find? name first) (find? name second) := by
  cases respelled with
  | reordered distinct moved =>
      exact Or.inl (find?_eq_of_perm moved distinct name)
  | @added before after other value unread =>
      have different : other ≠ name := fun equal => unread (equal ▸ read)
      rw [find?_append, find?_append, find?, if_neg different]
      exact Or.inl rfl
  | @changed before after other old new respelled =>
      rw [find?_append, find?_append]
      -- The member that is changed is found only if none before it has the name.
      cases find? name before with
      | some value => exact Or.inl rfl
      | none =>
          rw [find?, find?]
          by_cases equal : other = name
          · subst equal
            rw [if_pos rfl, if_pos rfl]
            exact Or.inr ⟨old, new, rfl, rfl, respelled⟩
          · rw [if_neg equal, if_neg equal]
            exact Or.inl rfl

end Members

/-- One change in how the members of an object are written. -/
inductive ObjectRespelled (reads : List String) (change : String -> Value -> Value -> Prop) :
    Value -> Value -> Prop
  | object {first second : Members} (respelled : Members.Respelled reads change first second) :
      ObjectRespelled reads change (.object first) (.object second)

end Document

namespace Reference

/-! ## Changes in a payload -/

/-- One change in how tags are written. -/
inductive TagsRespelled : Value -> Value -> Prop
  | reordered {first second : List Value} (moved : first.Perm second) :
      TagsRespelled (.list first) (.list second)
  | repeated {elements : List Value} {element : Value} (member : element ∈ elements) :
      TagsRespelled (.list elements) (.list (element :: elements))
  | numeral {before after : List Value} {old new : Value} (numeral : AsNumeral old new) :
      TagsRespelled (.list (before ++ old :: after)) (.list (before ++ new :: after))

/-- One change in how a position is written. -/
def PositionRespelled : Value -> Value -> Prop :=
  ObjectRespelled ["line", "column"] fun _ => AsNumeral

/-- The changes that the members of a range allow. -/
def RangeChange : String -> Value -> Value -> Prop
  | "file" => AsNumeral
  | "startpos" => PositionRespelled
  | _ => fun _ _ => False

/-- One change in how a range is written. -/
def RangeRespelled : Value -> Value -> Prop :=
  ObjectRespelled ["file", "startpos"] RangeChange

/-- The changes that the members of a payload allow. -/
def PayloadChange : String -> Value -> Value -> Prop
  | "id" | "display_value" | "mangled_name_hash" => AsNumeral
  | "range" => RangeRespelled
  | "tags" => TagsRespelled
  | _ => fun _ _ => False

/-- One change in how a payload is written. -/
def PayloadRespelled : Value -> Value -> Prop :=
  ObjectRespelled ["id", "range", "tags", "display_value", "mangled_name_hash"] PayloadChange

/-- Two payloads are spelled alike if changes lead from one to the other. -/
def SpelledAlike : Value -> Value -> Prop :=
  Relation.EqvGen PayloadRespelled

/-! ## Readers of single fields -/

theorem TagsRespelled.tagsField_eq {old new : Value} (respelled : TagsRespelled old new)
    (owner : String) : tagsField owner (some old) = tagsField owner (some new) := by
  have sameSet {first second : List Value}
      (same : ∀ tag, tag ∈ first.map Value.plain ↔ tag ∈ second.map Value.plain) :
      tagsField owner (some (.list first)) = tagsField owner (some (.list second)) :=
    congrArg Except.ok (tagSet_congr same)
  cases respelled with
  | reordered moved => exact sameSet fun _ => (moved.map Value.plain).mem_iff
  | repeated member =>
      apply sameSet
      intro tag
      rw [List.map_cons, List.mem_cons, iff_or_self]
      rintro rfl
      exact List.mem_map_of_mem member
  | numeral numeral =>
      apply sameSet
      intro tag
      rw [List.map_append, List.map_append, List.map_cons, List.map_cons, numeral.plain_eq]

theorem integerField_eq_of_asNumeral {old new : Value} (numeral : AsNumeral old new)
    (field : IntegerField) : integerField field old = integerField field new := by
  rcases numeral.exists_integer with ⟨n, oldHolds, newHolds⟩
  rw [integerField, integerField, oldHolds, newHolds]

/-- An integer is read alike after a change that makes it a numeral at most. -/
theorem integerMember_eq_of_foundAlike {first second : Members} {name : String}
    (found : FoundAlike AsNumeral (Members.find? name first) (Members.find? name second))
    (field : IntegerField) : integerMember first name field = integerMember second name field :=
  found.read_eq (fun value => integerField field (value.getD (.int 0)))
    fun _ _ numeral => integerField_eq_of_asNumeral numeral field

theorem fileField?_eq_of_foundAlike {first second : Members}
    (found : FoundAlike AsNumeral (Members.find? "file" first) (Members.find? "file" second)) :
    fileField? first = fileField? second := by
  rw [fileField?.eq_def, fileField?.eq_def]
  rcases found with same | ⟨old, new, firstFound, secondFound, numeral⟩
  · rw [same]
  · rw [firstFound, secondFound]
    cases numeral with
    | @intro n short => exact (if_neg (Number.integerText_ne_empty n)).symm

/-- The start of a range stays the same or is respelled. -/
theorem startPosition_cases {first second : Members}
    (found : FoundAlike PositionRespelled (Members.find? "startpos" first)
      (Members.find? "startpos" second)) :
    startPosition first = startPosition second ∨
      Members.Respelled ["line", "column"] (fun _ => AsNumeral) (startPosition first)
        (startPosition second) := by
  rw [startPosition.eq_def, startPosition.eq_def]
  rcases found with same | ⟨old, new, firstFound, secondFound, changed⟩
  · rw [same]
    exact Or.inl rfl
  · rw [firstFound, secondFound]
    cases changed with
    | object respelled => exact Or.inr respelled

/-! ## Readers of whole objects -/

/-- Two ranges from which the same is read. -/
structure RangesAlike (first second : Members) : Prop where
  file : fileField? first = fileField? second
  integers : ∀ name ∈ ["line", "column"], ∀ field,
    integerMember (startPosition first) name field =
      integerMember (startPosition second) name field

theorem RangesAlike.of_respelled {first second : Members}
    (respelled : Members.Respelled ["file", "startpos"] RangeChange first second) :
    RangesAlike first second where
  file := fileField?_eq_of_foundAlike (respelled.foundAlike (by simp))
  integers := by
    intro name known field
    rcases startPosition_cases (respelled.foundAlike (by simp)) with same | changed
    · rw [same]
    · exact integerMember_eq_of_foundAlike (changed.foundAlike known) field

/-- Two payloads from whose members the same is read. -/
structure PayloadsAlike (first second : Members) : Prop where
  id : (Members.find? "id" first).map Value.plain = (Members.find? "id" second).map Value.plain
  range : FoundAlike RangeRespelled (Members.find? "range" first) (Members.find? "range" second)
  tags : ∀ owner, tagsField owner (Members.find? "tags" first) =
    tagsField owner (Members.find? "tags" second)
  displayValue : plainField (Members.find? "display_value" first) =
    plainField (Members.find? "display_value" second)
  nameHash : ∀ field, integerMember first "mangled_name_hash" field =
    integerMember second "mangled_name_hash" field

theorem PayloadsAlike.of_respelled {first second : Members}
    (respelled : Members.Respelled
      ["id", "range", "tags", "display_value", "mangled_name_hash"] PayloadChange first second) :
    PayloadsAlike first second where
  id := (respelled.foundAlike (by simp)).read_eq (Option.map Value.plain)
    fun _ _ numeral => congrArg some (AsNumeral.plain_eq numeral)
  range := respelled.foundAlike (by simp)
  tags owner := (respelled.foundAlike (by simp)).read_eq (tagsField owner)
    fun _ _ changed => TagsRespelled.tagsField_eq changed owner
  displayValue := (respelled.foundAlike (by simp)).read_eq plainField
    fun _ _ numeral => AsNumeral.plain_eq numeral
  nameHash := integerMember_eq_of_foundAlike (respelled.foundAlike (by simp))

/-- Only five members of a payload are read. -/
theorem PayloadsAlike.of_find?_eq {first second : Members}
    (same : ∀ name ∈ ["id", "range", "tags", "display_value", "mangled_name_hash"],
      Members.find? name first = Members.find? name second) : PayloadsAlike first second where
  id := by rw [same "id" (by simp)]
  range := Or.inl (same "range" (by simp))
  tags owner := by rw [same "tags" (by simp)]
  displayValue := by rw [same "display_value" (by simp)]
  nameHash field := by rw [integerMember, integerMember, same "mangled_name_hash" (by simp)]

theorem PayloadsAlike.ofMembers_eq {first second : Members} (alike : PayloadsAlike first second) :
    ofMembers first = ofMembers second := by
  have ids := alike.id
  unfold ofMembers
  cases firstId : Members.find? "id" first with
  | none =>
      rw [firstId, Option.map_none, eq_comm, Option.map_eq_none_iff] at ids
      rw [ids]
  | some idValue =>
      rw [firstId, Option.map_some, eq_comm, Option.map_eq_some_iff] at ids
      rcases ids with ⟨other, secondId, samePlain⟩
      rw [secondId]
      -- Faults name the payload by the plain form of its id, so even these are the same.
      simp only [samePlain, alike.tags, alike.displayValue, alike.nameHash]
      rcases alike.range with same | ⟨_, _, firstRange, secondRange, ⟨respelled⟩⟩
      · rw [same]
      · have ranges := RangesAlike.of_respelled respelled
        rw [firstRange, secondRange]
        simp only [ranges.file, ranges.integers "line" (by simp),
          ranges.integers "column" (by simp)]

/-! ## Sequences of changes -/

/-- One change keeps the reference that is read, or the fault that is reported. -/
theorem PayloadRespelled.decode_eq {first second : Value}
    (respelled : PayloadRespelled first second) : decode first = decode second := by
  cases respelled with
  | object respelled => exact (PayloadsAlike.of_respelled respelled).ofMembers_eq

theorem SpelledAlike.decode_eq {first second : Value} (alike : SpelledAlike first second) :
    decode first = decode second := by
  induction alike with
  | rel _ _ respelled => exact respelled.decode_eq
  | refl _ => rfl
  | symm _ _ _ inductionHypothesis => exact inductionHypothesis.symm
  | trans _ _ _ _ _ firstHypothesis secondHypothesis =>
      exact firstHypothesis.trans secondHypothesis

end Reference

end RefTree
