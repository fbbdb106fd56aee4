import RefTree.Label
import RefTree.Proofs.Outcome
import RefTree.Reference.Decode

namespace RefTree

open Document

/-!
# References that name a file

A reference is located if it has a range whose file is not the empty text.  Only a located
reference has a label and can be grouped.  A host may make up references without a file, but no
query returns one: the reader of payloads refuses a missing, null or empty file, and the plain form
of every other value has at least one character.  This is what lets rows be shown long after the
query that found them.
-/

/-! ## Plain forms that are never empty -/

namespace Number

theorem integerText_ne_empty (n : Int) : integerText n ≠ "" := by
  unfold integerText
  split
  · simp
  · exact Nat.repr_ne_empty

namespace Double

theorem layout_ne_empty (digits : List Char) (point : Int) : layout digits point ≠ "" := by
  unfold layout
  simp only
  split
  · split
    · simp [← String.toList_inj]
    · split
      · simp [← String.toList_inj]
      · simp [← String.toList_inj]
  · -- The sign of the exponent is there, whatever the digits are.
    have signed : (if point - 1 < 0 then "e-" else "e+") ≠ "" := by
      split
      · simp
      · simp
    simp only [ne_eq, String.append_eq_empty_iff, signed, and_false, false_and, not_false_eq_true]

theorem finiteText_ne_empty (negative : Bool) (significand : Nat) (exponent : Int) :
    finiteText negative significand exponent ≠ "" := by
  unfold finiteText
  cases negative with
  | true => simp
  | false =>
      by_cases zero : significand = 0
      · simp [zero]
      · simp only [zero, if_false, Bool.false_eq_true]
        exact layout_ne_empty _ _

end Double
end Number

namespace Document
namespace Value

/-- Only a text can be shown as nothing. -/
theorem plain_ne_empty (value : Value) (notText : ∀ text, value ≠ .text text) :
    value.plain ≠ "" := by
  cases value with
  | null => simp [plain, quoted]
  | bool value => cases value <;> simp [plain, quoted]
  | int value => simpa [plain, quoted] using Number.integerText_ne_empty value
  | double value =>
      cases value with
      | finite negative significand exponent =>
          simpa [plain, quoted, Number.Double.textWith] using
            Number.Double.finiteText_ne_empty negative significand exponent
      | infinite negative => cases negative <;> simp [plain, quoted, Number.Double.textWith]
      | nan => simp [plain, quoted, Number.Double.textWith]
  | text value => exact False.elim (notText value rfl)
  | list elements => simp [plain, quoted]
  | object members => simp [plain, quoted]

end Value
end Document

theorem fileField?_ne_empty {range : Members} {file : String}
    (found : fileField? range = some file) : file ≠ "" := by
  unfold fileField? at found
  split at found
  · cases found
  · cases found
  · split at found
    · cases found
    · rename_i nonempty
      exact Option.some.inj found ▸ nonempty
  · rename_i value notNull notText _
    have shown : value.plain = file := Option.some.inj found
    rw [← shown]
    exact value.plain_ne_empty notText

namespace Reference

/-! ## What the reader of payloads requires -/

/-- A reference is read from its payload exactly when the id, the range and the file are there and
the tags and the three integers can be read; it then holds just these. -/
theorem ofMembers_eq_ok_iff {members : Members} {reference : Reference} :
    ofMembers members = .ok reference ↔
      ∃ idValue range file tags line column nameHash,
        Members.find? "id" members = some idValue ∧
        Members.find? "range" members = some (.object range) ∧
        fileField? range = some file ∧
        tagsField ("reference " ++ Text.quoted idValue.plain) (Members.find? "tags" members) =
          .ok tags ∧
        integerMember (startPosition range) "line" (.line (Text.quoted idValue.plain)) =
          .ok line ∧
        integerMember (startPosition range) "column" (.column (Text.quoted idValue.plain)) =
          .ok column ∧
        integerMember members "mangled_name_hash"
          (.nameHash ("reference " ++ Text.quoted idValue.plain)) = .ok nameHash ∧
        reference =
          { id := idValue.plain
            range := some { file, line, column }
            displayValue := plainField (Members.find? "display_value" members)
            tags
            nameHash } := by
  unfold ofMembers
  constructor
  · intro read
    split at read
    · rename_i idValue idFound
      simp only at read
      split at read
      · rename_i range rangeFound
        split at read
        · rename_i file fileFound
          simp only [Outcome.bind_eq_ok_iff, Outcome.pure_eq_ok, Except.ok.injEq] at read
          rcases read with
            ⟨tags, tagsRead, line, lineRead, column, columnRead, nameHash, hashRead, rfl⟩
          exact ⟨idValue, range, file, tags, line, column, nameHash, idFound, rangeFound,
            fileFound, tagsRead, lineRead, columnRead, hashRead, rfl⟩
        · cases read
      · cases read
    · cases read
  · rintro ⟨idValue, range, file, tags, line, column, nameHash, idFound, rangeFound, fileFound,
      tagsRead, lineRead, columnRead, hashRead, rfl⟩
    simp only [idFound, rangeFound, fileFound, tagsRead, lineRead, columnRead, hashRead,
      Outcome.ok_bind, Outcome.pure_eq_ok]

/-! ## Located references -/

/-- A reference is located if it has a range that names a file. -/
def IsLocated (reference : Reference) : Prop :=
  ∃ range, reference.located = .ok range

theorem located_eq_ok_iff {reference : Reference} {range : SourceRange} :
    reference.located = .ok range ↔ reference.range = some range ∧ range.file ≠ "" := by
  unfold located
  cases stored : reference.range with
  | none => simp
  | some other =>
      by_cases empty : other.file = ""
      · simp only [empty, if_true, reduceCtorEq, Option.some.injEq, false_iff, not_and, not_not]
        rintro rfl
        exact empty
      · simp only [empty, if_false, Except.ok.injEq, Option.some.injEq, iff_self_and]
        rintro rfl
        exact empty

theorem isLocated_iff {reference : Reference} :
    reference.IsLocated ↔ ∃ range, reference.range = some range ∧ range.file ≠ "" := by
  unfold IsLocated
  simp only [located_eq_ok_iff]

/-- A located reference has a label. -/
theorem IsLocated.exists_label {reference : Reference} (isLocated : reference.IsLocated) :
    ∃ label, reference.label = .ok label := by
  rcases isLocated with ⟨range, found⟩
  unfold label
  rw [found, Outcome.ok_bind]
  exact ⟨_, rfl⟩

theorem isLocated_of_ofMembers {members : Members} {reference : Reference}
    (read : ofMembers members = .ok reference) : reference.IsLocated := by
  rcases ofMembers_eq_ok_iff.mp read with
    ⟨idValue, range, file, tags, line, column, nameHash, _, _, fileFound, _, _, _, _, rfl⟩
  exact isLocated_iff.mpr ⟨_, rfl, fileField?_ne_empty fileFound⟩

theorem isLocated_of_decode {payload : Value} {reference : Reference}
    (read : decode payload = .ok reference) : reference.IsLocated := by
  unfold decode at read
  split at read
  · exact isLocated_of_ofMembers read
  · cases read

end Reference

end RefTree
