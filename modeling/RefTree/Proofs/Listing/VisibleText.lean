import Mathlib.Data.List.TakeWhile
import RefTree.Proofs.Listing.ReferenceText

namespace RefTree

/-!
# Colours do not change what is seen

A terminal does not show escape sequences.  What it shows of a text is the text without them, where
sequences are looked for from left to right.  A theme puts sequences around the parts of a row, and
these parts come from a snapshot: they may hold sequences of their own, and they may end in the
middle of one.  What is seen of a line is still the same in every theme.

The reason is in what follows such a part.  It is nothing, a sequence, or a character that cannot go
on with an unfinished sequence, so nothing is ever completed across the border.  The rows may be any
rows, also those that a host has made.
-/

namespace Text

/-! ## Escape sequences -/

/-- Decide whether a character can stand among the parameters of an escape sequence. -/
def isParameter (c : Char) : Bool :=
  c.isDigit || c == ';'

/-- What comes after the escape sequence that a text starts with, if it starts with one. -/
def afterSequence? : List Char -> Option (List Char)
  | '\x1b' :: '[' :: rest =>
      match rest.dropWhile isParameter with
      | 'm' :: after => some after
      | _ => none
  | _ => none

/-- A sequence is an escape character, a bracket, parameters, and the letter `m`. -/
theorem afterSequence?_eq_some_iff {chars after : List Char} :
    afterSequence? chars = some after ↔
      ∃ parameters : List Char, (∀ c ∈ parameters, isParameter c = true) ∧
        chars = '\x1b' :: '[' :: (parameters ++ 'm' :: after) := by
  constructor
  · intro found
    unfold afterSequence? at found
    split at found
    · rename_i rest
      split at found
      · rename_i behind ended
        cases found
        refine ⟨rest.takeWhile isParameter, fun c => List.mem_takeWhile_imp, ?_⟩
        rw [← ended, List.takeWhile_append_dropWhile]
      · cases found
    · cases found
  · rintro ⟨parameters, all, rfl⟩
    have dropped : (parameters ++ 'm' :: after).dropWhile isParameter = 'm' :: after := by
      rw [List.dropWhile_append_of_pos all]
      rfl
    simp only [afterSequence?, dropped]

theorem length_afterSequence? {chars after : List Char}
    (found : afterSequence? chars = some after) : after.length < chars.length := by
  rcases afterSequence?_eq_some_iff.mp found with ⟨parameters, _, rfl⟩
  simp only [List.length_cons, List.length_append]
  omega

/-- The characters that are seen: all that belong to no escape sequence. -/
def visibleChars (chars : List Char) : List Char :=
  match chars with
  | [] => []
  | c :: rest =>
      match found : afterSequence? (c :: rest) with
      | some after =>
          have := length_afterSequence? found
          visibleChars after
      | none => c :: visibleChars rest
termination_by chars.length
decreasing_by
  · assumption
  · exact Nat.lt_add_one rest.length

/-- What is seen of a text. -/
def visible (text : String) : String :=
  String.ofList (visibleChars text.toList)

theorem visibleChars_of_some {c : Char} {rest after : List Char}
    (found : afterSequence? (c :: rest) = some after) :
    visibleChars (c :: rest) = visibleChars after := by
  rw [visibleChars.eq_def]
  simp only
  split
  · rename_i other otherFound
    rw [found] at otherFound
    rw [Option.some.inj otherFound]
  · rename_i absent
    rw [found] at absent
    cases absent

theorem visibleChars_cons_of_none {c : Char} {rest : List Char}
    (absent : afterSequence? (c :: rest) = none) :
    visibleChars (c :: rest) = c :: visibleChars rest := by
  rw [visibleChars.eq_def]
  simp only
  split
  · rename_i found
    rw [absent] at found
    cases found
  · rfl

/-! ## What is seen of a text in two parts -/

/-- Only these characters can go on with an unfinished sequence. -/
def goesOn (c : Char) : Bool :=
  c == '[' || c == 'm' || isParameter c

/-- A text does not start by going on with an unfinished sequence. -/
def IsApart (chars : List Char) : Prop :=
  ∀ c ∈ chars.head?, goesOn c = false

theorem isApart_of_head {text rest : String} {c : Char} (starts : text.toList.head? = some c)
    (stops : goesOn c = false) : IsApart (text ++ rest).toList := by
  intro other found
  rw [String.toList_append, List.head?_append, starts, Option.some_or] at found
  cases found
  exact stops

/-- A sequence is over where it ends, whatever follows. -/
theorem afterSequence?_append_of_some {chars after : List Char}
    (found : afterSequence? chars = some after) (text : List Char) :
    afterSequence? (chars ++ text) = some (after ++ text) := by
  rcases afterSequence?_eq_some_iff.mp found with ⟨parameters, all, rfl⟩
  apply afterSequence?_eq_some_iff.mpr
  exact ⟨parameters, all, by simp⟩

/-- A text that stands apart completes no sequence that was started before it. -/
theorem afterSequence?_append_of_none {c : Char} {rest text : List Char}
    (absent : afterSequence? (c :: rest) = none) (apart : IsApart text) :
    afterSequence? (c :: rest ++ text) = none := by
  rw [Option.eq_none_iff_forall_ne_some]
  intro after found
  rcases afterSequence?_eq_some_iff.mp found with ⟨parameters, all, split⟩
  rcases List.cons.inj split with ⟨rfl, tails⟩
  have bodies : rest ++ text = ('[' :: (parameters ++ ['m'])) ++ after := by simpa using tails
  rcases List.append_eq_append_iff.mp bodies with ⟨missing, body, started⟩ | ⟨behind, rfl, rfl⟩
  · cases missing with
    | nil =>
        -- Nothing of the sequence is missing before the text.
        have complete : afterSequence? ('\x1b' :: rest) = some [] :=
          afterSequence?_eq_some_iff.mpr ⟨parameters, all, by rw [← List.append_nil rest, ← body]⟩
        rw [absent] at complete
        cases complete
    | cons head others =>
        have among : head ∈ '[' :: (parameters ++ ['m']) := by
          rw [body]
          exact List.mem_append_right _ List.mem_cons_self
        have fails : goesOn head = false := apart head (by rw [started]; rfl)
        have goes : goesOn head = true := by
          simp only [List.mem_cons, List.mem_append, List.not_mem_nil, or_false] at among
          rcases among with rfl | parameter | rfl
          · rfl
          · simp only [goesOn, all head parameter, Bool.or_true]
          · rfl
        rw [goes] at fails
        cases fails
  · have complete : afterSequence? ('\x1b' :: ('[' :: (parameters ++ ['m']) ++ behind)) =
        some behind :=
      afterSequence?_eq_some_iff.mpr ⟨parameters, all, by simp⟩
    rw [absent] at complete
    cases complete

/-- If its second part stands apart, each part of a text is seen as it would be on its own. -/
theorem visibleChars_append (chars : List Char) {text : List Char} (apart : IsApart text) :
    visibleChars (chars ++ text) = visibleChars chars ++ visibleChars text := by
  fun_induction visibleChars chars with
  | case1 => rfl
  | case2 c rest after found shorter inductionHypothesis =>
      rw [← inductionHypothesis]
      exact visibleChars_of_some (afterSequence?_append_of_some found text)
  | case3 c rest absent inductionHypothesis =>
      have still : afterSequence? (c :: (rest ++ text)) = none :=
        afterSequence?_append_of_none absent apart
      rw [List.cons_append, visibleChars_cons_of_none still, inductionHypothesis, List.cons_append]

theorem visible_append (text : String) {rest : String} (apart : IsApart rest.toList) :
    visible (text ++ rest) = visible text ++ visible rest := by
  rw [visible, String.toList_append, visibleChars_append _ apart, String.ofList_append]
  rfl

/-- All of a text without an escape character is seen, and it starts no sequence. -/
theorem visible_literal_append {text : String} (noEscape : '\x1b' ∉ text.toList) (rest : String) :
    visible (text ++ rest) = text ++ visible rest := by
  have seen (chars : List Char) (literal : '\x1b' ∉ chars) :
      visibleChars (chars ++ rest.toList) = chars ++ visibleChars rest.toList := by
    induction chars with
    | nil => rfl
    | cons c others inductionHypothesis =>
        rw [List.mem_cons, not_or] at literal
        have absent : afterSequence? (c :: (others ++ rest.toList)) = none := by
          rw [Option.eq_none_iff_forall_ne_some]
          intro after found
          rcases afterSequence?_eq_some_iff.mp found with ⟨_, _, split⟩
          exact literal.1 (List.cons.inj split).1.symm
        rw [List.cons_append, visibleChars_cons_of_none absent, inductionHypothesis literal.2,
          List.cons_append]
  rw [visible, String.toList_append, seen _ noEscape, String.ofList_append, String.ofList_toList]
  rfl

/-! ## Sequences around a text -/

/-- A text that is empty or a single sequence. -/
def IsCode (code : String) : Prop :=
  code = "" ∨ afterSequence? code.toList = some []

instance (code : String) : Decidable (IsCode code) :=
  inferInstanceAs (Decidable (_ ∨ _))

namespace IsCode

variable {code : String} (isCode : IsCode code)

include isCode

/-- A sequence is not seen, and it does not change what is seen after it. -/
theorem visible_append (rest : String) : visible (code ++ rest) = visible rest := by
  rcases isCode with rfl | sequence
  · rw [String.empty_append]
  · have found := afterSequence?_append_of_some sequence rest.toList
    rcases afterSequence?_eq_some_iff.mp sequence with ⟨parameters, _, split⟩
    rw [split] at found
    rw [visible, String.toList_append, split]
    exact congrArg String.ofList (visibleChars_of_some found)

theorem isApart_append {rest : String} (apart : IsApart rest.toList) :
    IsApart (code ++ rest).toList := by
  rcases isCode with rfl | sequence
  · rwa [String.empty_append]
  · rcases afterSequence?_eq_some_iff.mp sequence with ⟨parameters, _, split⟩
    have starts : code.toList.head? = some '\x1b' := by rw [split, List.head?_cons]
    exact isApart_of_head starts (by decide)

theorem visible_after (text : String) : visible (text ++ code) = visible text := by
  have apart : IsApart (code ++ "").toList := isCode.isApart_append (by rintro c ⟨⟩)
  have unseen : visible (code ++ "") = "" := by
    rw [isCode.visible_append, visible, String.toList_empty, visibleChars, String.ofList_nil]
  rw [String.append_empty] at apart unseen
  rw [Text.visible_append text apart, unseen, String.append_empty]

end IsCode

/-- A text between two sequences is seen as it would be without them. -/
theorem visible_coloured {before after : String} (isBefore : IsCode before) (isAfter : IsCode after)
    (text : String) : visible (before ++ text ++ after) = visible text := by
  rw [String.append_assoc, isBefore.visible_append, isAfter.visible_after]

end Text

/-! ## What is seen of a row -/

namespace Theme

/-- Every part of a theme is a sequence or empty. -/
structure IsCoded (theme : Theme) : Prop where
  reset : Text.IsCode theme.reset
  treeMarker : Text.IsCode theme.treeMarker
  propertyKey : Text.IsCode theme.propertyKey
  propertyValue : Text.IsCode theme.propertyValue
  category : Text.IsCode theme.category
  fileGroup : Text.IsCode theme.fileGroup
  badge : Text.IsCode theme.badge
  implicit : Text.IsCode theme.implicit
  visibility (shown : Visibility) : Text.IsCode (theme.ofVisibility shown)
  error : Text.IsCode theme.error

theorem isCoded_of_mem {theme : Theme} (known : theme ∈ [standard, ocean, plain]) :
    theme.IsCoded := by
  simp only [List.mem_cons, List.not_mem_nil, or_false] at known
  rcases known with rfl | rfl | rfl <;> constructor <;>
    first | decide | (intro shown; cases shown <;> decide)

end Theme

/-- What is seen of a row: its key and its value, its label alone, or its label behind its marker
and its badges. -/
def Row.visibleText (row : Row) : String :=
  match row.label.key with
  | some key => Text.visible key ++ ": " ++ Text.visible row.label.text
  | none =>
      match row.kind with
      | .category | .recursive | .fileGroup => Text.visible row.label.text
      | _ =>
          visibilityMark (row.reference.bind fun reference => Visibility.ofTags? reference.tags) ++
            lettersText (row.label.badges.map fun badge => Text.visible badge.letter) ++
            Text.visible row.label.text

/-- What is seen of a line. -/
def Line.visibleText : Line -> String
  | .row level marker shown => indentation level ++ marker.text ++ shown.visibleText
  | .fault level cause => indentation level ++ "    " ++ "error: " ++ Text.visible cause.message

theorem escape_not_mem_indentation (level : Nat) : '\x1b' ∉ (indentation level).toList := by
  rw [indentation, String.toList_ofList]
  intro member
  exact absurd (List.eq_of_mem_replicate member) (by decide)

section Coloured

open Text

variable {theme : Theme} (coded : theme.IsCoded)

include coded

theorem visible_badgesText (badges : List Badge) (rest : String) :
    visible (badgesText theme badges ++ rest) =
      lettersText (badges.map fun badge => visible badge.letter) ++ visible rest := by
  have joined (rest : String) :
      visible (String.join (badges.map fun badge =>
          theme.badge ++ "[" ++ badge.letter ++ "]" ++ theme.reset) ++ rest) =
        String.join ((badges.map fun badge => visible badge.letter).map fun letter =>
          "[" ++ letter ++ "]") ++ visible rest := by
    induction badges with
    | nil => simp only [List.map_nil, String.join_nil, String.empty_append]
    | cons first others inductionHypothesis =>
        simp only [List.map_cons, String.join_cons, String.append_assoc] at inductionHypothesis ⊢
        rw [coded.badge.visible_append, visible_literal_append (by decide),
          visible_append first.letter (isApart_of_head rfl (by decide)),
          visible_literal_append (by decide), coded.reset.visible_append, inductionHypothesis]
  rw [badgesText, lettersText, List.isEmpty_map]
  split
  · rw [String.empty_append, String.empty_append]
  · rw [String.append_assoc, joined, visible_literal_append (by decide), String.append_assoc]

theorem visible_visibilityText (reference : Option Reference) (rest : String) :
    visible (visibilityText theme reference ++ rest) =
      visibilityMark (reference.bind fun reference => Visibility.ofTags? reference.tags) ++
        visible rest := by
  unfold visibilityText
  cases reference.bind fun reference => Visibility.ofTags? reference.tags with
  | none => simp only [visibilityMark, String.empty_append]
  | some visibility =>
      have marked : '\x1b' ∉ visibility.marker.toList := by cases visibility <;> decide
      simp only [visibilityMark, String.append_assoc]
      rw [(coded.visibility visibility).visible_append, visible_literal_append marked,
        coded.reset.visible_append, visible_literal_append (by decide)]

theorem visible_rowText (row : Row) : visible (row.text theme) = row.visibleText := by
  unfold Row.text rowText Row.visibleText
  cases row.label.key with
  | some key =>
      -- What follows the key is a sequence or a colon.
      have apart (rest : String) : IsApart (theme.reset ++ (": " ++ rest)).toList :=
        coded.reset.isApart_append (isApart_of_head rfl (by decide))
      simp only [String.append_assoc]
      rw [coded.propertyKey.visible_append, visible_append key (apart _),
        coded.reset.visible_append, visible_literal_append (by decide),
        coded.propertyValue.visible_append, coded.reset.visible_after]
  | none =>
      have hinted : visible (if row.label.hint.isSome then
          theme.implicit ++ row.label.text ++ theme.reset else row.label.text) =
          visible row.label.text := by
        split
        · exact visible_coloured coded.implicit coded.reset row.label.text
        · rfl
      have marked (text : String) :
          visible (visibilityText theme row.reference ++ badgesText theme row.label.badges ++
            text) =
          visibilityMark (row.reference.bind fun reference => Visibility.ofTags? reference.tags) ++
            lettersText (row.label.badges.map fun badge => visible badge.letter) ++
            visible text := by
        rw [String.append_assoc, visible_visibilityText coded, visible_badgesText coded,
          String.append_assoc]
      rw [referenceText_none]
      cases row.kind with
      | category | recursive => exact visible_coloured coded.category coded.reset row.label.text
      | fileGroup => exact visible_coloured coded.fileGroup coded.reset row.label.text
      | property | caller | reference | custom => exact (marked _).trans (by rw [hinted])

/-! ## What is seen of a line -/

theorem visible_lineText (line : Line) : visible (line.text theme) = line.visibleText := by
  cases line with
  | row level marker shown =>
      have markers : '\x1b' ∉ marker.text.toList := by cases marker <;> decide
      -- The text of the row may start in any way, but no sequence is unfinished before it.
      simp only [Line.text, Line.visibleText, String.append_assoc]
      rw [visible_literal_append (escape_not_mem_indentation level),
        coded.treeMarker.visible_append, visible_literal_append markers,
        coded.reset.visible_append, visible_rowText coded]
  | fault level cause =>
      simp only [Line.text, Line.visibleText, String.append_assoc]
      rw [visible_literal_append (escape_not_mem_indentation level),
        visible_literal_append (by decide), coded.error.visible_append,
        visible_literal_append (by decide), coded.reset.visible_after]

end Coloured

/-- What is printed of rows in any two themes, without a style for values, is seen to be the same:
if there are lines, there are as many in both, and each is seen alike; if printing fails, it fails
in both, and for the same reason. -/
theorem colour_changes_no_visible_text (snapshot : Snapshot) (depth : Int) (rows : List Row)
    {first second : Theme} (firstKnown : first ∈ [Theme.standard, .ocean, .plain])
    (secondKnown : second ∈ [Theme.standard, .ocean, .plain]) :
    Outcome.Agree
      (fun lines others =>
        lines.length = others.length ∧ lines.map Text.visible = others.map Text.visible)
      (treeLines snapshot first none depth rows) (treeLines snapshot second none depth rows) := by
  have firstCoded := Theme.isCoded_of_mem firstKnown
  have secondCoded := Theme.isCoded_of_mem secondKnown
  rw [treeLines_eq, treeLines_eq]
  cases Tree.unfoldRows snapshot depth rows with
  | error cause => exact .error cause
  | ok trees =>
      apply Outcome.Agree.ok
      constructor
      · rw [List.length_map, List.length_map]
      · rw [List.map_map, List.map_map]
        apply List.map_congr_left
        intro line _
        rw [Function.comp_apply, Function.comp_apply, visible_lineText firstCoded,
          visible_lineText secondCoded]

namespace BrokenSequences

open Document

def payload : Value :=
  .object [("id", .text "c\x1b[1"), ("display_value", .text "a\x1b[31mb\x1b[3"),
    ("tags", .list [.text "implicit", .text "private"]),
    ("range", .object [("file", .text "m\x1b"), ("startpos", .object [("line", .int 7)])])]

/-- A key, a value, a file and the id of a caller end in the middle of a sequence, and the caller
also has a whole one.  The caller has no record, so its id is shown in a fault. -/
def snapshot : Snapshot where
  members := [
    ("files", .object [("m\x1b", .object [])]),
    ("symbols", .object [("s", .object [
      ("properties", .object [("0m\x1b[", .text "1m\x1b")]),
      ("reference_types", .object [(callerName, .int 0)]),
      ("references", .object [("0", .list [payload])])])])]

def symbol : Symbol where
  id := "s"
  range := none
  displayValue := "s"
  tags := []
  nameHash := 0

def plainLines : List String :=
  ["  0m\x1b[: 1m\x1b", "▾ Caller", "  ▾ m\x1b (1)", "    ▾ - [I] 7:0: a\x1b[31mb\x1b[3",
    "        error: unknown symbol id: c\x1b[1"]

/-- Only the whole sequence is not seen. -/
def seenLines : List String :=
  ["  0m\x1b[: 1m\x1b", "▾ Caller", "  ▾ m\x1b (1)", "    ▾ - [I] 7:0: ab\x1b[3",
    "        error: unknown symbol id: c\x1b[1"]

theorem broken_sequences_are_seen_alike :
    ∃ rows lines,
      focusRows snapshot (.symbol symbol) = .ok rows ∧
      treeLines snapshot .plain none 4 rows = .ok plainLines ∧
      treeLines snapshot .ocean none 4 rows = .ok lines ∧ lines ≠ plainLines ∧
      lines.length = 5 ∧ lines.map Text.visible = seenLines := by
  have shown : ∃ rows lines,
      focusRows snapshot (.symbol symbol) = .ok rows ∧
      treeLines snapshot .plain none 4 rows = .ok plainLines ∧
      treeLines snapshot .ocean none 4 rows = .ok lines ∧ lines ≠ plainLines :=
    ⟨_, _, rfl, rfl, rfl, by decide⟩
  rcases shown with ⟨rows, lines, tops, plain, ocean, different⟩
  have seen : plainLines.map Text.visible = seenLines := by cbv
  have oceanKnown : Theme.ocean ∈ [Theme.standard, .ocean, .plain] := by decide
  have plainKnown : Theme.plain ∈ [Theme.standard, .ocean, .plain] := by decide
  have alike := colour_changes_no_visible_text snapshot 4 rows oceanKnown plainKnown
  rw [ocean, plain] at alike
  cases alike with
  | ok same =>
      exact ⟨rows, lines, tops, plain, ocean, different, same.1, same.2.trans seen⟩

end BrokenSequences

end RefTree
