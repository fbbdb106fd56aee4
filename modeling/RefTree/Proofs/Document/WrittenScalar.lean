import Mathlib.Algebra.Group.Nat.Defs
import RefTree.Document.Writer
import RefTree.Document.Token
import RefTree.Proofs.Number.IntegerText

namespace RefTree

/-!
# Written scalars are scanned as one token

Texts and integers are written so that scanning takes exactly the characters that were written, and
gives back what they stand for.  A text ends at its own closing mark, whatever follows; each of its
characters is written in one of three ways, and each way is undone by a rule of its own.  An integer
has no closing mark and would go on if more of a number followed, so what may come after it is part
of the statement.

Everything that is written is ink: printable ASCII, or the line feeds that a layout puts between
lines.  This is what makes a written document the same in octets as in characters.
-/

namespace Text

/-! ## Hexadecimal digits -/

theorem hexValue?_digitChar :
    ∀ digit, digit < 16 -> hexValue? (Nat.digitChar digit) = some digit := by
  decide

theorem hexNumber?_append (sofar : Nat) (first second : List Char) :
    hexNumber? sofar (first ++ second) =
      (hexNumber? sofar first).bind fun value => hexNumber? value second := by
  induction first generalizing sofar with
  | nil => rfl
  | cons c rest inductionHypothesis =>
      simp only [List.cons_append, hexNumber?]
      cases hexValue? c with
      | none => rfl
      | some digit => exact inductionHypothesis _

/-- A number that fits into some digits is read back from them. -/
theorem hexNumber?_hexDigits (width n : Nat) (fits : n < 16 ^ width) :
    hexNumber? 0 (hexDigits width n) = some n := by
  induction width generalizing n with
  | zero =>
      have zero : n = 0 := by omega
      rw [zero]
      rfl
  | succ width inductionHypothesis =>
      have front : n / 16 < 16 ^ width := by
        rw [Nat.div_lt_iff_lt_mul (by decide), ← Nat.pow_succ]
        exact fits
      have last : hexValue? (Nat.digitChar (n % 16)) = some (n % 16) :=
        hexValue?_digitChar _ (Nat.mod_lt _ (by decide))
      rw [hexDigits, hexNumber?_append, inductionHypothesis _ front, Option.bind_some]
      simp only [hexNumber?, last]
      rw [Nat.div_add_mod']

theorem hexDigits_four (n : Nat) : ∃ a b c d, hexDigits 4 n = [a, b, c, d] :=
  ⟨_, _, _, _, rfl⟩

/-! ## Ink -/

/-- The characters that a document is written with: printable ASCII and the line feed. -/
def IsInk (c : Char) : Prop :=
  c = '\n' ∨ 0x20 ≤ c.toNat ∧ c.toNat < 0x7F

instance (c : Char) : Decidable (IsInk c) :=
  inferInstanceAs (Decidable (_ ∨ _))

theorem IsInk.toNat_lt {c : Char} (ink : IsInk c) : c.toNat < 0x80 := by
  rcases ink with rfl | ⟨_, printable⟩
  · decide
  · omega

theorem IsInk.ne_carriageReturn {c : Char} (ink : IsInk c) : c ≠ '\r' := by
  rintro rfl
  exact absurd ink (by decide)

/-- A text that consists of ink. -/
def InInk (chars : List Char) : Prop :=
  ∀ c ∈ chars, IsInk c

instance (chars : List Char) : Decidable (InInk chars) :=
  List.decidableBAll IsInk chars

@[simp]
theorem inInk_nil : InInk [] := by
  intro c member
  cases member

@[simp]
theorem inInk_cons (c : Char) (chars : List Char) : InInk (c :: chars) ↔ IsInk c ∧ InInk chars :=
  List.forall_mem_cons

@[simp]
theorem inInk_append (first second : List Char) :
    InInk (first ++ second) ↔ InInk first ∧ InInk second :=
  List.forall_mem_append

theorem isInk_digitChar : ∀ digit, digit < 16 -> IsInk (Nat.digitChar digit) := by
  decide

@[simp]
theorem inInk_hexDigits (width n : Nat) : InInk (hexDigits width n) := by
  induction width generalizing n with
  | zero => exact inInk_nil
  | succ width inductionHypothesis =>
      have last := isInk_digitChar (n % 16) (Nat.mod_lt _ (by decide))
      simp [hexDigits, inductionHypothesis, last]

end Text

namespace Document

open Text (IsInk InInk)

/-! ## Characters of a text -/

/-- The three ways to write a character: a short escape, the character itself, or its units. -/
theorem writtenChar_cases (c : Char) :
    (∃ mark, shortEscape? mark = some c ∧ IsInk mark ∧ writtenChar c = ['\\', mark]) ∨
      (c ≠ '"' ∧ c ≠ '\\' ∧ IsInk c ∧ 0x20 ≤ c.toNat ∧ writtenChar c = [c]) ∨
      writtenChar c = unitEscapes c := by
  unfold writtenChar
  split
  · rename_i marked
    rcases (by simpa using marked : c = '"' ∨ c = '\\') with rfl | rfl
    · exact Or.inl ⟨'"', rfl, by decide, rfl⟩
    · exact Or.inl ⟨'\\', rfl, by decide, rfl⟩
  rename_i unmarked
  split
  · rename_i same
    exact Or.inl ⟨'n', by rw [same]; rfl, by decide, rfl⟩
  split
  · rename_i same
    exact Or.inl ⟨'r', by rw [same]; rfl, by decide, rfl⟩
  split
  · rename_i same
    exact Or.inl ⟨'t', by rw [same]; rfl, by decide, rfl⟩
  split
  · rename_i same
    exact Or.inl ⟨'b', by rw [same]; rfl, by decide, rfl⟩
  split
  · rename_i same
    exact Or.inl ⟨'f', by rw [same]; rfl, by decide, rfl⟩
  split
  · rename_i printable
    have other : c ≠ '"' ∧ c ≠ '\\' := by simpa using unmarked
    have range : ' ' ≤ c ∧ c ≤ '~' := by simpa using printable
    have low : 0x20 ≤ c.toNat := range.1
    have high : c.toNat ≤ 0x7E := range.2
    exact Or.inr (Or.inl ⟨other.1, other.2, Or.inr ⟨low, by omega⟩, low, rfl⟩)
  · exact Or.inr (Or.inr rfl)

theorem inInk_unitEscapes (c : Char) : InInk (unitEscapes c) := by
  have mark : IsInk '\\' := by decide
  have unit : IsInk 'u' := by decide
  unfold unitEscapes
  split
  · simp [mark, unit]
  · simp [mark, unit]

theorem inInk_writtenChar (c : Char) : InInk (writtenChar c) := by
  have escape : IsInk '\\' := by decide
  rcases writtenChar_cases c with ⟨mark, _, ink, form⟩ | ⟨_, _, ink, _, form⟩ | form
  · simp [form, escape, ink]
  · simp [form, ink]
  · rw [form]
    exact inInk_unitEscapes c

@[simp]
theorem inInk_writtenText (text : String) : InInk (writtenText text) := by
  have mark : IsInk '"' := by decide
  have inside : InInk (text.toList.flatMap writtenChar) := by
    intro written member
    rcases List.mem_flatMap.mp member with ⟨c, _, belongs⟩
    exact inInk_writtenChar c written belongs
  simp [writtenText, mark, inside]

/-! ## Scanning a text -/

theorem scanText_short (start position : Nat) {mark meant : Char} (tail : List Char)
    (escape : shortEscape? mark = some meant) :
    scanText start position ('\\' :: mark :: tail) =
      (scanText start (position + 2) tail).map (TextScan.cons meant 2) := by
  have notUnit : mark ≠ 'u' := by
    rintro rfl
    cases escape
  rw [scanText]
  · simp [escape]
  · simpa using notUnit

theorem scanText_plain (start position : Nat) {c : Char} (tail : List Char) (notMark : c ≠ '"')
    (notEscape : c ≠ '\\') (printable : 0x20 ≤ c.toNat) :
    scanText start position (c :: tail) =
      (scanText start (position + 1) tail).map (TextScan.cons c 1) := by
  rw [scanText]
  · simp [Nat.not_lt.mpr printable]
  · simpa using notMark
  · simpa using notEscape

theorem scanText_unit (start position unit : Nat) (after : Char) (tail : List Char)
    (small : unit < 0x10000) (single : isHighSurrogate unit = false) :
    scanText start position ('\\' :: 'u' :: Text.hexDigits 4 unit ++ after :: tail) =
      (scanText start (position + 6) (after :: tail)).map (TextScan.cons (unitChar unit) 6) := by
  rcases Text.hexDigits_four unit with ⟨a, b, c, d, digits⟩
  have read := Text.hexNumber?_hexDigits 4 unit small
  rw [digits] at read ⊢
  simp only [List.cons_append, List.nil_append]
  rw [scanText]
  simp [read, single]

theorem scanText_pair (start position : Nat) {high low : Nat} (after : Char) (tail : List Char)
    (isHigh : isHighSurrogate high = true) (isLow : isLowSurrogate low = true) :
    scanText start position ('\\' :: 'u' :: Text.hexDigits 4 high ++
        '\\' :: 'u' :: Text.hexDigits 4 low ++ after :: tail) =
      (scanText start (position + 12) (after :: tail)).map
        (TextScan.cons (joinSurrogates high low) 12) := by
  have highFits : high < 16 ^ 4 := by
    simp only [isHighSurrogate, Bool.and_eq_true, decide_eq_true_eq] at isHigh
    omega
  have lowFits : low < 16 ^ 4 := by
    simp only [isLowSurrogate, Bool.and_eq_true, decide_eq_true_eq] at isLow
    omega
  rcases Text.hexDigits_four high with ⟨a, b, c, d, highDigits⟩
  rcases Text.hexDigits_four low with ⟨e, f, g, h, lowDigits⟩
  have readHigh := Text.hexNumber?_hexDigits 4 high highFits
  have readLow := Text.hexNumber?_hexDigits 4 low lowFits
  rw [highDigits] at readHigh ⊢
  rw [lowDigits] at readLow ⊢
  simp only [List.cons_append, List.nil_append]
  rw [scanText]
  simp [readHigh, readLow, isHigh, isLow]

/-- The units of a character are joined again.  No single unit is half of a pair, because a
character is never a surrogate. -/
theorem scanText_unitEscapes (start position : Nat) (c after : Char) (tail : List Char) :
    scanText start position (unitEscapes c ++ after :: tail) =
      (scanText start (position + (unitEscapes c).length) (after :: tail)).map
        (TextScan.cons c (unitEscapes c).length) := by
  have valid : c.toNat < 0xD800 ∨ 0xDFFF < c.toNat ∧ c.toNat < 0x110000 := c.valid
  unfold unitEscapes
  by_cases small : c.toNat < 0x10000
  · have notHigh : isHighSurrogate c.toNat = false := by
      simp only [isHighSurrogate, Bool.and_eq_false_iff, decide_eq_false_iff_not]
      omega
    have notLow : isLowSurrogate c.toNat = false := by
      simp only [isLowSurrogate, Bool.and_eq_false_iff, decide_eq_false_iff_not]
      omega
    have meant : unitChar c.toNat = c := by
      simp [unitChar, notHigh, notLow]
    rw [if_pos small, scanText_unit start position c.toNat after tail small notHigh, meant]
    simp
  · have isHigh : isHighSurrogate (0xD800 + (c.toNat - 0x10000) / 0x400) = true := by
      simp only [isHighSurrogate, Bool.and_eq_true, decide_eq_true_eq]
      omega
    have isLow : isLowSurrogate (0xDC00 + (c.toNat - 0x10000) % 0x400) = true := by
      simp only [isLowSurrogate, Bool.and_eq_true, decide_eq_true_eq]
      omega
    have meant : joinSurrogates (0xD800 + (c.toNat - 0x10000) / 0x400)
        (0xDC00 + (c.toNat - 0x10000) % 0x400) = c := by
      have code : 0x10000 + (0xD800 + (c.toNat - 0x10000) / 0x400 - 0xD800) * 0x400 +
          (0xDC00 + (c.toNat - 0x10000) % 0x400 - 0xDC00) = c.toNat := by
        omega
      rw [joinSurrogates, code, Char.ofNat_toNat]
    rw [if_neg small]
    simp only
    rw [scanText_pair start position after tail isHigh isLow, meant]
    simp

/-- One written character is scanned back.  Something must follow it, as the closing mark does. -/
theorem scanText_writtenChar (start position : Nat) (c after : Char) (tail : List Char) :
    scanText start position (writtenChar c ++ after :: tail) =
      (scanText start (position + (writtenChar c).length) (after :: tail)).map
        (TextScan.cons c (writtenChar c).length) := by
  rcases writtenChar_cases c with
    ⟨mark, escape, _, form⟩ | ⟨notMark, notEscape, _, printable, form⟩ | form
  · rw [form]
    exact scanText_short start position _ escape
  · rw [form]
    exact scanText_plain start position _ notMark notEscape printable
  · rw [form]
    exact scanText_unitEscapes start position c after tail

/-- Scanning a written text gives the text and the width that it was written with. -/
theorem scanText_written (start position : Nat) (chars rest : List Char) :
    scanText start position (chars.flatMap writtenChar ++ '"' :: rest) =
      .ok ⟨chars, (chars.flatMap writtenChar).length + 1⟩ := by
  induction chars generalizing position with
  | nil => simp [scanText]
  | cons c chars inductionHypothesis =>
      have something : ∃ after tail,
          chars.flatMap writtenChar ++ '"' :: rest = after :: tail := by
        cases chars.flatMap writtenChar with
        | nil => exact ⟨_, _, rfl⟩
        | cons first others => exact ⟨_, _, rfl⟩
      rcases something with ⟨after, tail, following⟩
      rw [List.flatMap_cons, List.append_assoc, following, scanText_writtenChar, ← following,
        inductionHypothesis]
      simp [Except.map, TextScan.cons, Nat.add_assoc]

/-! ## Scanning an integer -/

/-- What may come after an integer: nothing, or a character that does not continue a number. -/
def EndsNumber (rest : List Char) : Prop :=
  ∀ c, rest.head? = some c -> isDigit c = false ∧ c ≠ '.' ∧ c ≠ 'e' ∧ c ≠ 'E'

theorem isDigit_of_mem_toDigits {n : Nat} {c : Char} (member : c ∈ Nat.toDigits 10 n) :
    isDigit c = true :=
  Nat.isDigit_of_mem_toDigits (by decide) (by decide) member

theorem ne_of_isDigit {c other : Char} (digit : isDigit c = true)
    (noDigit : isDigit other = false) : c ≠ other := by
  rintro rfl
  rw [digit] at noDigit
  cases noDigit

/-- The first digit is a zero only if the number is. -/
theorem exists_head_toDigits (n : Nat) :
    ∃ first rest, Nat.toDigits 10 n = first :: rest ∧ (n ≠ 0 -> first ≠ '0') := by
  induction n using Nat.strongRecOn with
  | ind n inductionHypothesis =>
      by_cases single : n < 10
      · refine ⟨_, _, Nat.toDigits_of_lt_base single, ?_⟩
        intro nonzero zero
        exact nonzero (Nat.digitChar_eq_zero.mp zero)
      · rcases inductionHypothesis (n / 10) (by omega) with ⟨first, rest, digits, nonzero⟩
        rw [Nat.toDigits_of_base_le (by decide) (by omega), digits]
        exact ⟨first, _, rfl, fun _ => nonzero (by omega)⟩

theorem scanWhole_toDigits (n : Nat) {rest : List Char} (ends : EndsNumber rest) :
    scanWhole (Nat.toDigits 10 n ++ rest) = Nat.toDigits 10 n := by
  by_cases zero : n = 0
  · subst zero
    rw [Nat.toDigits_zero]
    rfl
  · have taken : (Nat.toDigits 10 n ++ rest).takeWhile isDigit = Nat.toDigits 10 n := by
      rw [List.takeWhile_append_of_pos fun c => isDigit_of_mem_toDigits]
      cases rest with
      | nil => simp
      | cons c rest => simp [(ends c rfl).1]
    rcases exists_head_toDigits n with ⟨first, others, digits, nonzero⟩
    rw [digits, List.cons_append] at taken ⊢
    rw [scanWhole]
    · exact taken
    · simp [nonzero zero]

theorem scanFraction_of_endsNumber {rest : List Char} (ends : EndsNumber rest) :
    scanFraction rest = [] := by
  unfold scanFraction
  split
  · exact absurd rfl (ends '.' rfl).2.1
  · rfl

theorem scanExponent_of_endsNumber {rest : List Char} (ends : EndsNumber rest) :
    scanExponent rest = none := by
  cases rest with
  | nil => rfl
  | cons mark rest =>
      have other := (ends mark rfl).2.2
      simp [scanExponent, other.1, other.2]

theorem scanNumber?_integerText (n : Int) {rest : List Char} (ends : EndsNumber rest) :
    scanNumber? ((Number.integerText n).toList ++ rest) =
      some ⟨decide (n < 0), Nat.toDigits 10 n.natAbs, [], none,
        (Number.integerText n).toList.length⟩ := by
  have whole := scanWhole_toDigits n.natAbs ends
  have noFraction := scanFraction_of_endsNumber ends
  have noExponent := scanExponent_of_endsNumber ends
  have nonempty : Nat.toDigits 10 n.natAbs ≠ [] := Nat.toDigits_ne_nil
  rw [Number.toList_integerText]
  by_cases negative : n < 0
  · simp [scanNumber?, negative, whole, noFraction, noExponent, nonempty, Nat.add_comm]
  · have unsigned : ∀ others, Nat.toDigits 10 n.natAbs ++ rest ≠ '-' :: others :=
      Number.toDigits_append_ne_hyphen n.natAbs rest
    unfold scanNumber?
    simp [negative, whole, noFraction, noExponent, nonempty]

/-- The number of digits that an integer is written with. -/
def digitCount (n : Int) : Nat :=
  (Nat.toDigits 10 n.natAbs).length

theorem NumberScan.token_integer {n : Int} (short : digitCount n ≤ Number.maxDigits)
    (width : Nat) :
    NumberScan.token ⟨decide (n < 0), Nat.toDigits 10 n.natAbs, [], none, width⟩ =
      .scalar (.int n) := by
  have size : digitsNumber (Nat.toDigits 10 n.natAbs) = n.natAbs := Nat.ofDigitChars_ten_toDigits
  have allowed : ¬Number.maxDigits < (Nat.toDigits 10 n.natAbs).length := Nat.not_lt.mpr short
  simp only [token, List.isEmpty_nil, Option.isNone_none, Bool.and_self, if_true, allowed,
    if_false, size, decide_eq_true_eq]
  congr 2
  split
  · omega
  · omega

/-- A text that starts like an integer does not start like a named scalar. -/
theorem namedScalars_find?_integer (n : Int) (rest : List Char) :
    (namedScalars.find? fun named =>
      named.1.isPrefixOf ((Number.integerText n).toList ++ rest)) = none := by
  rcases exists_head_toDigits n.natAbs with ⟨first, others, digits, _⟩
  have digit : isDigit first = true :=
    isDigit_of_mem_toDigits (n := n.natAbs) (digits ▸ List.mem_cons_self)
  have different : ∀ c, isDigit c = false -> (c == first) = false :=
    fun c noDigit => beq_eq_false_iff_ne.mpr (ne_of_isDigit digit noDigit).symm
  rw [Number.toList_integerText, digits]
  by_cases negative : n < 0
  · simp [namedScalars, negative, List.isPrefixOf, different 'I' (by decide)]
  · simp [namedScalars, negative, List.isPrefixOf, different 'n' (by decide),
      different 't' (by decide), different 'f' (by decide), different 'N' (by decide),
      different 'I' (by decide), different '-' (by decide)]

/-- The first character of an integer starts no token of another kind. -/
theorem exists_head_integerText (n : Int) :
    ∃ first body, (Number.integerText n).toList = first :: body ∧ isSpacing first = false ∧
      punctuation? first = none ∧ first ≠ '"' := by
  rw [Number.toList_integerText]
  by_cases negative : n < 0
  · rw [if_pos negative]
    exact ⟨'-', _, rfl, rfl, rfl, by decide⟩
  · rw [if_neg negative]
    rcases exists_head_toDigits n.natAbs with ⟨first, body, digits, _⟩
    have digit : isDigit first = true :=
      isDigit_of_mem_toDigits (n := n.natAbs) (digits ▸ List.mem_cons_self)
    have different : ∀ c, isDigit c = false -> first ≠ c := fun c => ne_of_isDigit digit
    refine ⟨first, body, digits, ?_, ?_, different '"' (by decide)⟩
    · simp [isSpacing, different ' ' (by decide), different '\t' (by decide),
        different '\n' (by decide), different '\r' (by decide)]
    · unfold punctuation?
      split
      · exact absurd rfl (different '{' (by decide))
      · exact absurd rfl (different '}' (by decide))
      · exact absurd rfl (different '[' (by decide))
      · exact absurd rfl (different ']' (by decide))
      · exact absurd rfl (different ':' (by decide))
      · exact absurd rfl (different ',' (by decide))
      · rfl

/-- An integer is scanned as the number that it is. -/
theorem scanToken_integer {n : Int} (short : digitCount n ≤ Number.maxDigits) {rest : List Char}
    (ends : EndsNumber rest) (position : Nat) {first : Char} {body : List Char}
    (written : (Number.integerText n).toList = first :: body) :
    scanToken position first (body ++ rest) = (.scalar (.int n), body.length) := by
  have unnamed := namedScalars_find?_integer n rest
  have scanned := scanNumber?_integerText n ends
  rcases exists_head_integerText n with ⟨other, others, same, _, unpunctuated, unmarked⟩
  rw [written] at same
  cases same
  rw [written, List.cons_append] at unnamed scanned
  simp only [scanToken, unpunctuated, unmarked, if_false, unnamed, scanned,
    NumberScan.token_integer short, List.length_cons, Nat.add_sub_cancel]

end Document
end RefTree
