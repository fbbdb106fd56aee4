import RefTree.Proofs.Listing.Preorder
import RefTree.Proofs.Number.IntegerText
import RefTree.Proofs.Row.Opening

namespace RefTree

/-!
# What the text of a reference tells

The row of a reference is printed as one text: a marker for its visibility, its badges in brackets,
its line and its column, and its value.  The first two may be missing, the value may be any text,
and a hyphen is the sign of a negative line as well as a marker.  Without colours the text still
tells all these parts.

The parts are read off from the left.  Each is stated with an arbitrary text behind it, and what may
follow it is all that is assumed of that text: after an optional part comes a bracket or an integer,
and an integer starts with a digit or with a hyphen and a digit.
-/

/-! ## Optional parts -/

/-- A text starts with an integer. -/
def StartsInteger (chars : List Char) : Prop :=
  ∃ digit rest, digit.isDigit = true ∧ (chars = digit :: rest ∨ chars = '-' :: digit :: rest)

theorem startsInteger_integerText (n : Int) (rest : List Char) :
    StartsInteger ((Number.integerText n).toList ++ rest) := by
  rcases Number.exists_start_integerText n with ⟨digit, others, isDigit, start | start⟩
  · exact ⟨digit, others ++ rest, isDigit, Or.inl (by rw [start, List.cons_append])⟩
  · exact ⟨digit, others ++ rest, isDigit, Or.inr (by rw [start]; rfl)⟩

/-- An integer starts with neither a bracket nor any other character that stands for itself. -/
theorem StartsInteger.ne_cons {chars : List Char} (starts : StartsInteger chars) {c : Char}
    (noDigit : c.isDigit = false) (noSign : c ≠ '-') (rest : List Char) : chars ≠ c :: rest := by
  rintro rfl
  rcases starts with ⟨digit, others, isDigit, start | start⟩
  · rw [(List.cons.inj start).1, isDigit] at noDigit
    cases noDigit
  · exact noSign (List.cons.inj start).1

/-! ## Badges -/

/-- The letters of badges, each in brackets, and a blank after them. -/
def lettersText (letters : List String) : String :=
  if letters.isEmpty then ""
  else String.join (letters.map fun letter => "[" ++ letter ++ "]") ++ " "

/-- The characters of letters in brackets. -/
def bracketed : List String -> List Char
  | [] => []
  | letter :: rest => '[' :: (letter.toList ++ ']' :: bracketed rest)

theorem toList_lettersText_cons (letter : String) (rest : List String) :
    (lettersText (letter :: rest)).toList = bracketed (letter :: rest) ++ [' '] := by
  have joined (letters : List String) :
      (String.join (letters.map fun letter => "[" ++ letter ++ "]")).toList =
        bracketed letters := by
    induction letters with
    | nil => rfl
    | cons first others inductionHypothesis =>
        rw [List.map_cons, String.join_cons, String.toList_append, inductionHypothesis]
        simp [bracketed]
  rw [lettersText, List.isEmpty_cons, if_neg Bool.false_ne_true, String.toList_append, joined]
  rfl

/-- Letters without a closing bracket of their own end at the blank. -/
theorem bracketed_blank_inj {first second : List String} {left right : List Char}
    (openFirst : ∀ letter ∈ first, ']' ∉ letter.toList)
    (openSecond : ∀ letter ∈ second, ']' ∉ letter.toList)
    (equal : bracketed first ++ ' ' :: left = bracketed second ++ ' ' :: right) :
    first = second ∧ left = right := by
  induction first generalizing second with
  | nil =>
      cases second with
      | nil => exact ⟨rfl, (List.cons.inj equal).2⟩
      | cons other others => exact absurd (List.cons.inj equal).1 (by decide)
  | cons letter letters inductionHypothesis =>
      cases second with
      | nil => exact absurd (List.cons.inj equal).1 (by decide)
      | cons other others =>
          rcases List.forall_mem_cons.mp openFirst with ⟨letterOpen, lettersOpen⟩
          rcases List.forall_mem_cons.mp openSecond with ⟨otherOpen, othersOpen⟩
          simp only [bracketed, List.cons_append, List.append_assoc] at equal
          rcases Number.append_mark_inj letterOpen otherOpen (List.cons.inj equal).2 with
            ⟨sameLetter, rests⟩
          rcases inductionHypothesis lettersOpen othersOpen rests with ⟨sameLetters, sameRest⟩
          exact ⟨by rw [String.toList_inj.mp sameLetter, sameLetters], sameRest⟩

theorem lettersText_append_inj {first second : List String} {left right : List Char}
    (openFirst : ∀ letter ∈ first, ']' ∉ letter.toList)
    (openSecond : ∀ letter ∈ second, ']' ∉ letter.toList)
    (startsLeft : StartsInteger left) (startsRight : StartsInteger right)
    (equal : (lettersText first).toList ++ left = (lettersText second).toList ++ right) :
    first = second ∧ left = right := by
  cases first with
  | nil =>
      cases second with
      | nil => exact ⟨rfl, equal⟩
      | cons other others =>
          rw [toList_lettersText_cons] at equal
          exact absurd equal (startsLeft.ne_cons (by decide) (by decide) _)
  | cons letter letters =>
      rw [toList_lettersText_cons] at equal
      cases second with
      | nil => exact absurd equal.symm (startsRight.ne_cons (by decide) (by decide) _)
      | cons other others =>
          rw [toList_lettersText_cons, List.append_assoc, List.append_assoc] at equal
          exact bracketed_blank_inj openFirst openSecond equal

/-- No badge has a letter with a bracket in it. -/
theorem bracket_not_mem_letters (tags : List String) :
    ∀ letter ∈ (badgesFor tags).map Badge.letter, ']' ∉ letter.toList := by
  intro letter member
  rcases List.mem_map.mp member with ⟨badge, shown, rfl⟩
  have noBracket : ∀ known ∈ allBadges, ']' ∉ known.letter.toList := by decide
  exact noBracket badge (List.mem_filter.mp shown).1

/-! ## Visibility -/

/-- The marker of a visibility and a blank after it. -/
def visibilityMark : Option Visibility -> String
  | some visibility => visibility.marker ++ " "
  | none => ""

theorem StartsInteger.ne_visibilityMark {chars : List Char} (starts : StartsInteger chars)
    (visibility : Visibility) (rest : List Char) :
    chars ≠ (visibilityMark (some visibility)).toList ++ rest := by
  cases visibility with
  | everyone => exact starts.ne_cons (by decide) (by decide) _
  | heirs => exact starts.ne_cons (by decide) (by decide) _
  | owner =>
      -- Here the hyphen is a marker, and what tells it from a sign is the blank after it.
      rintro rfl
      rcases starts with ⟨digit, others, isDigit, start | start⟩
      · rw [← (List.cons.inj start).1] at isDigit
        cases isDigit
      · rw [← (List.cons.inj (List.cons.inj start).2).1] at isDigit
        cases isDigit

/-- What comes after the marker of a visibility: letters, and then an integer. -/
def StartsLabel (chars : List Char) : Prop :=
  ∃ letters rest, StartsInteger rest ∧ chars = (lettersText letters).toList ++ rest

theorem StartsLabel.ne_visibilityMark {chars : List Char} (starts : StartsLabel chars)
    (visibility : Visibility) (rest : List Char) :
    chars ≠ (visibilityMark (some visibility)).toList ++ rest := by
  rcases starts with ⟨letters, others, integer, rfl⟩
  cases letters with
  | nil => exact integer.ne_visibilityMark visibility rest
  | cons letter letters =>
      rw [toList_lettersText_cons]
      intro equal
      cases visibility <;> exact absurd (List.cons.inj equal).1 (by decide)

theorem visibilityMark_inj {first second : Visibility} {left right : List Char}
    (equal : (visibilityMark (some first)).toList ++ left =
      (visibilityMark (some second)).toList ++ right) : first = second ∧ left = right := by
  have marks : first.marker.toList ++ ' ' :: left = second.marker.toList ++ ' ' :: right := by
    simpa [visibilityMark] using equal
  have noBlank : ∀ visibility : Visibility, ' ' ∉ visibility.marker.toList := by
    rintro (_ | _ | _) <;> decide
  rcases Number.append_mark_inj (noBlank first) (noBlank second) marks with ⟨sameMark, sameRest⟩
  have markers : first.marker = second.marker := String.toList_inj.mp sameMark
  refine ⟨?_, sameRest⟩
  revert markers
  cases first <;> cases second <;> decide

theorem visibilityMark_append_inj {first second : Option Visibility} {left right : List Char}
    (startsLeft : StartsLabel left) (startsRight : StartsLabel right)
    (equal : (visibilityMark first).toList ++ left = (visibilityMark second).toList ++ right) :
    first = second ∧ left = right := by
  cases first with
  | none =>
      cases second with
      | none => exact ⟨rfl, equal⟩
      | some visibility => exact absurd equal (startsLeft.ne_visibilityMark visibility right)
  | some visibility =>
      cases second with
      | none => exact absurd equal.symm (startsRight.ne_visibilityMark visibility left)
      | some other =>
          rcases visibilityMark_inj equal with ⟨rfl, sameRest⟩
          exact ⟨rfl, sameRest⟩

/-! ## Position and value -/

/-- The text of a label behind its badges. -/
def placedText (range : SourceRange) (value : String) : String :=
  Reference.positionText range ++ " " ++ value

theorem toList_placedText (range : SourceRange) (value : String) :
    (placedText range value).toList =
      (Number.integerText range.line).toList ++ ':' ::
        ((Number.integerText range.column).toList ++ ':' :: ' ' :: value.toList) := by
  simp [placedText, Reference.positionText]

theorem placedText_inj {first second : SourceRange} {value other : String}
    (equal : placedText first value = placedText second other) :
    first.line = second.line ∧ first.column = second.column ∧ value = other := by
  have lists := congrArg String.toList equal
  rw [toList_placedText, toList_placedText] at lists
  rcases Number.integerText_mark_inj (by decide) (by decide) lists with ⟨sameLine, columns⟩
  rcases Number.integerText_mark_inj (by decide) (by decide) columns with ⟨sameColumn, values⟩
  exact ⟨sameLine, sameColumn, String.toList_inj.mp (List.cons.inj values).2⟩

theorem startsInteger_placedText (range : SourceRange) (value : String) :
    StartsInteger (placedText range value).toList := by
  rw [toList_placedText]
  exact startsInteger_integerText range.line _

/-! ## Labels and rows -/

namespace Reference

/-- Two references have the same letters on their badges, the same line and column, and the same
value. -/
structure LabelledAlike (first second : Reference) : Prop where
  letters : (badgesFor first.tags).map Badge.letter = (badgesFor second.tags).map Badge.letter
  line : first.range.map SourceRange.line = second.range.map SourceRange.line
  column : first.range.map SourceRange.column = second.range.map SourceRange.column
  displayValue : first.displayValue = second.displayValue

/-- The text that the label of a reference makes. -/
def labelText (reference : Reference) (range : SourceRange) : String :=
  lettersText ((badgesFor reference.tags).map Badge.letter) ++
    placedText range reference.displayValue

theorem startsLabel_labelText (reference : Reference) (range : SourceRange) :
    StartsLabel (reference.labelText range).toList := by
  rw [labelText, String.toList_append]
  exact ⟨_, _, startsInteger_placedText range reference.displayValue, rfl⟩

theorem labelText_eq_iff {first second : Reference} {range other : SourceRange}
    (firstPlace : first.range = some range) (secondPlace : second.range = some other) :
    first.labelText range = second.labelText other ↔ first.LabelledAlike second := by
  constructor
  · intro equal
    have lists := congrArg String.toList equal
    rw [labelText, labelText, String.toList_append, String.toList_append] at lists
    rcases lettersText_append_inj (bracket_not_mem_letters _) (bracket_not_mem_letters _)
      (startsInteger_placedText _ _) (startsInteger_placedText _ _) lists with ⟨letters, placed⟩
    rcases placedText_inj (String.toList_inj.mp placed) with ⟨line, column, value⟩
    refine ⟨letters, ?_, ?_, value⟩
    · rw [firstPlace, secondPlace, Option.map_some, Option.map_some, line]
    · rw [firstPlace, secondPlace, Option.map_some, Option.map_some, column]
  · intro alike
    have line := alike.line
    have column := alike.column
    rw [firstPlace, secondPlace] at line column
    rw [labelText, labelText, alike.letters, alike.displayValue, placedText, placedText,
      positionText, positionText, Option.some.inj line, Option.some.inj column]

theorem exists_label_of_range {reference : Reference} {range : SourceRange}
    (place : reference.range = some range) (named : range.file ≠ "") :
    ∃ label, reference.label = .ok label ∧ label.key = none ∧
      label.text = placedText range reference.displayValue ∧
      label.badges = badgesFor reference.tags := by
  have found := located_eq_ok_iff.mpr ⟨place, named⟩
  unfold label
  rw [found, Outcome.ok_bind]
  exact ⟨_, rfl, rfl, rfl, rfl⟩

end Reference

theorem lettersText_map (badges : List Badge) :
    lettersText (badges.map Badge.letter) =
      if badges.isEmpty then "" else Label.badgeText badges ++ " " := by
  rw [lettersText, List.isEmpty_map, List.map_map]
  rfl

theorem Label.plain_eq {label : Label} (unkeyed : label.key = none) :
    label.plain = lettersText (label.badges.map Badge.letter) ++ label.text := by
  unfold plain
  rw [unkeyed, lettersText_map]
  simp only
  split
  · rw [String.empty_append]
  · rfl

theorem badgesText_plain (badges : List Badge) :
    badgesText .plain badges = lettersText (badges.map Badge.letter) := by
  rw [badgesText, lettersText_map, Label.badgeText]
  simp only [Theme.plain, String.empty_append, String.append_empty]

theorem visibilityText_plain (reference : Reference) :
    visibilityText .plain (some reference) =
      visibilityMark (Visibility.ofTags? reference.tags) := by
  rw [visibilityText, Option.bind_some]
  cases Visibility.ofTags? reference.tags with
  | none => rfl
  | some visibility => cases visibility <;> rfl

/-- Without colours, the row of a reference is the marker of its visibility before its label. -/
theorem exists_leaf_text {reference : Reference} {range : SourceRange}
    (place : reference.range = some range) (named : range.file ≠ "") (id : Option String) :
    ∃ row, Row.leaf reference id = .ok row ∧
      rowText .plain none row =
        .ok (visibilityMark (Visibility.ofTags? reference.tags) ++ reference.labelText range) := by
  rcases Reference.exists_label_of_range place named with ⟨label, made, unkeyed, text, badges⟩
  refine ⟨_, Row.leaf_eq_ok_iff.mpr ⟨label, made, rfl⟩, ?_⟩
  have unhinted : (if label.hint.isSome then Theme.plain.implicit ++ label.text ++ Theme.plain.reset
      else label.text) = label.text := by
    simp only [Theme.plain, String.empty_append, String.append_empty, ite_self]
  simp only [rowText, unkeyed, referenceText, Outcome.ok_bind, Outcome.pure_eq_ok, unhinted]
  rw [visibilityText_plain, badgesText_plain, badges, text, String.append_assoc]
  rfl

/-- If two references have ranges with files, they have rows and labels.  Their rows are printed
alike without colours exactly if the references have the same visibility, the same letters on their
badges, the same line and column, and the same value.  Their labels alone make the same text exactly
if all of this but the visibility is the same.

Lines and columns are written whatever their size.  Those of references in a loaded snapshot have at
most `maxDigits` digits, by `Query.isShort_answer_of_load`. -/
theorem printed_reference_tells_its_parts {first second : Reference} {range other : SourceRange}
    (firstPlace : first.range = some range) (firstNamed : range.file ≠ "")
    (secondPlace : second.range = some other) (secondNamed : other.file ≠ "")
    (firstId secondId : Option String) :
    (∃ row otherRow text otherText,
      Row.leaf first firstId = .ok row ∧ Row.leaf second secondId = .ok otherRow ∧
      rowText .plain none row = .ok text ∧ rowText .plain none otherRow = .ok otherText ∧
      (text = otherText ↔
        Visibility.ofTags? first.tags = Visibility.ofTags? second.tags ∧
          first.LabelledAlike second)) ∧
    ∃ label otherLabel, first.label = .ok label ∧ second.label = .ok otherLabel ∧
      (label.plain = otherLabel.plain ↔ first.LabelledAlike second) := by
  constructor
  · rcases exists_leaf_text firstPlace firstNamed firstId with ⟨row, made, shown⟩
    rcases exists_leaf_text secondPlace secondNamed secondId with ⟨otherRow, otherMade, otherShown⟩
    refine ⟨row, otherRow, _, _, made, otherMade, shown, otherShown, ?_⟩
    rw [← Reference.labelText_eq_iff firstPlace secondPlace]
    constructor
    · intro equal
      have lists := congrArg String.toList equal
      rw [String.toList_append, String.toList_append] at lists
      rcases visibilityMark_append_inj (first.startsLabel_labelText range)
        (second.startsLabel_labelText other) lists with ⟨visibility, labels⟩
      exact ⟨visibility, String.toList_inj.mp labels⟩
    · rintro ⟨visibility, labels⟩
      rw [visibility, labels]
  · rcases Reference.exists_label_of_range firstPlace firstNamed with
      ⟨label, made, unkeyed, text, badges⟩
    rcases Reference.exists_label_of_range secondPlace secondNamed with
      ⟨otherLabel, otherMade, otherUnkeyed, otherText, otherBadges⟩
    refine ⟨label, otherLabel, made, otherMade, ?_⟩
    rw [← Reference.labelText_eq_iff firstPlace secondPlace, Label.plain_eq unkeyed,
      Label.plain_eq otherUnkeyed, text, badges, otherText, otherBadges]
    rfl

namespace HyphenRows

/-- A private member at a negative line. -/
def made : Reference where
  id := "a"
  range := some ⟨"f", -3, 4⟩
  displayValue := "-5: x"
  tags := ["implicit", "private"]
  nameHash := 0

/-- Another one in another file, whose badge has another meaning and the same letter. -/
def taken : Reference where
  id := "b"
  range := some ⟨"g", -3, 4⟩
  displayValue := "-5: x"
  tags := ["inherited", "private", "protected"]
  nameHash := 1

/-- The two are printed alike, and so they agree in all that is shown. -/
theorem hyphen_rows_tell_their_parts :
    ∃ row otherRow text, Row.leaf made none = .ok row ∧ Row.leaf taken (some "b") = .ok otherRow ∧
      rowText .plain none row = .ok text ∧ rowText .plain none otherRow = .ok text ∧
      text = "- [I] -3:4: -5: x" ∧
      Visibility.ofTags? made.tags = Visibility.ofTags? taken.tags ∧ made.LabelledAlike taken := by
  have place : made.range = some ⟨"f", -3, 4⟩ := rfl
  have otherPlace : taken.range = some ⟨"g", -3, 4⟩ := rfl
  rcases printed_reference_tells_its_parts place (by decide) otherPlace (by decide) none
    (some "b") with ⟨⟨row, otherRow, text, otherText, leaf, otherLeaf, shown, otherShown, tells⟩, _⟩
  have known : text = "- [I] -3:4: -5: x" := by
    cases leaf
    cases shown
    rfl
  have same : text = otherText := by
    cases otherLeaf
    cases otherShown
    exact known
  exact ⟨row, otherRow, text, leaf, otherLeaf, shown, same ▸ otherShown, known, tells.mp same⟩

end HyphenRows

end RefTree
