import Mathlib.Data.List.Induction
import Mathlib.Data.List.TakeWhile
import Mathlib.Data.Nat.Digits.Defs
import RefTree.Proofs.Number.IntegerText

namespace RefTree

/-!
# Numerals

What the reader of integers accepts is said here as a grammar: blanks, at most one sign, decimal
digits of any scripts with single underscores between them, and blanks again.  The value is the
usual one of the digits, to which the sign is applied.  The reader removes the blanks first and
then looks at the first character, so that the proof is mostly about what the outermost characters
of a numeral can be.
-/

namespace Text

/-! ## Characters of numerals -/

theorem exists_digitZero {c : Char} {digit : Nat} (found : digitValue? c = some digit) :
    ∃ start ∈ digitZeros, start ≤ c.toNat ∧ c.toNat < start + 10 := by
  rcases Option.map_eq_some_iff.mp found with ⟨start, chosen, _⟩
  refine ⟨start, List.mem_of_find?_eq_some chosen, ?_⟩
  simpa using List.find?_some chosen

theorem digitValue?_lt {c : Char} {digit : Nat} (found : digitValue? c = some digit) :
    digit < 10 := by
  rcases Option.map_eq_some_iff.mp found with ⟨start, chosen, rfl⟩
  have within := List.find?_some chosen
  simp only [Bool.and_eq_true, decide_eq_true_eq] at within
  omega

/-- No set of digits meets a span of blanks. -/
theorem digits_apart_from_blanks : ∀ start ∈ digitZeros, ∀ span ∈ blankSpans,
    span.2 < start ∨ start + 10 ≤ span.1 := by
  decide

theorem isNumberBlank_of_digit {c : Char} {digit : Nat} (found : digitValue? c = some digit) :
    isNumberBlank c = false := by
  rcases exists_digitZero found with ⟨start, listed, above, below⟩
  have notBlank : ¬isBlank c = true := by
    rw [isBlank, covers_iff]
    rintro ⟨span, member, first, last⟩
    rcases digits_apart_from_blanks start listed span member with before | after
    · omega
    · omega
  rw [isNumberBlank, Bool.eq_false_iff.mpr notBlank, Bool.false_and]

/-! ## Trimming -/

/-- Trimming takes blanks from the two ends. -/
theorem exists_ends_of_trimChars (drop : Char -> Bool) (chars : List Char) :
    ∃ before after, chars = before ++ trimChars drop chars ++ after ∧
      (∀ c ∈ before, drop c = true) ∧ ∀ c ∈ after, drop c = true := by
  refine ⟨chars.takeWhile drop, ((chars.dropWhile drop).reverse.takeWhile drop).reverse,
    ?_, ?_, ?_⟩
  · have kept : trimChars drop chars ++ ((chars.dropWhile drop).reverse.takeWhile drop).reverse =
        chars.dropWhile drop := by
      rw [trimChars, ← List.reverse_append, List.takeWhile_append_dropWhile, List.reverse_reverse]
    rw [List.append_assoc, kept, List.takeWhile_append_dropWhile]
  · intro c member
    exact List.mem_takeWhile_imp member
  · intro c member
    exact List.mem_takeWhile_imp (List.mem_reverse.mp member)

/-- What begins and ends with characters that stay is trimmed of everything around it. -/
theorem trimChars_eq {drop : Char -> Bool} {before after core : List Char} {first last : Char}
    {rest start : List Char} (blankBefore : ∀ c ∈ before, drop c = true)
    (blankAfter : ∀ c ∈ after, drop c = true) (begins : core = first :: rest)
    (ends : core = start ++ [last]) (firstStays : drop first = false)
    (lastStays : drop last = false) :
    trimChars drop (before ++ core ++ after) = core := by
  have left : (before ++ core ++ after).dropWhile drop = core ++ after := by
    rw [List.append_assoc, List.dropWhile_append_of_pos blankBefore, begins, List.cons_append,
      List.dropWhile_cons_of_neg (by simp [firstStays])]
  have right : (core ++ after).reverse.dropWhile drop = core.reverse := by
    have blankReversed : ∀ c ∈ after.reverse, drop c = true :=
      fun c member => blankAfter c (List.mem_reverse.mp member)
    rw [List.reverse_append, List.dropWhile_append_of_pos blankReversed, ends,
      List.reverse_append, List.reverse_singleton, List.singleton_append,
      List.dropWhile_cons_of_neg (by simp [lastStays])]
  rw [trimChars, left, right, List.reverse_reverse]

end Text

namespace Number

/-! ## Digits -/

/-- Decimal digits, with single underscores between them, and their values. -/
inductive IsDigitRun : List Char -> List Nat -> Prop
  | last {c : Char} {digit : Nat} (found : Text.digitValue? c = some digit) :
      IsDigitRun [c] [digit]
  | next {c : Char} {digit : Nat} {chars : List Char} {digits : List Nat}
      (found : Text.digitValue? c = some digit) (later : IsDigitRun chars digits) :
      IsDigitRun (c :: chars) (digit :: digits)
  | spaced {c : Char} {digit : Nat} {chars : List Char} {digits : List Nat}
      (found : Text.digitValue? c = some digit) (later : IsDigitRun chars digits) :
      IsDigitRun (c :: '_' :: chars) (digit :: digits)

namespace IsDigitRun

variable {chars : List Char} {digits : List Nat}

theorem exists_first (run : IsDigitRun chars digits) :
    ∃ c rest digit, chars = c :: rest ∧ Text.digitValue? c = some digit := by
  cases run with
  | last found => exact ⟨_, _, _, rfl, found⟩
  | next found _ => exact ⟨_, _, _, rfl, found⟩
  | spaced found _ => exact ⟨_, _, _, rfl, found⟩

theorem exists_last (run : IsDigitRun chars digits) :
    ∃ start c digit, chars = start ++ [c] ∧ Text.digitValue? c = some digit := by
  induction run with
  | last found => exact ⟨[], _, _, rfl, found⟩
  | next _ _ inductionHypothesis =>
      rcases inductionHypothesis with ⟨start, c, digit, rfl, found⟩
      exact ⟨_ :: start, c, digit, rfl, found⟩
  | spaced _ _ inductionHypothesis =>
      rcases inductionHypothesis with ⟨start, c, digit, rfl, found⟩
      exact ⟨_ :: '_' :: start, c, digit, rfl, found⟩

theorem lt_ten (run : IsDigitRun chars digits) : ∀ digit ∈ digits, digit < 10 := by
  induction run with
  | last found => exact List.forall_mem_singleton.mpr (Text.digitValue?_lt found)
  | next found _ inductionHypothesis =>
      exact List.forall_mem_cons.mpr ⟨Text.digitValue?_lt found, inductionHypothesis⟩
  | spaced found _ inductionHypothesis =>
      exact List.forall_mem_cons.mpr ⟨Text.digitValue?_lt found, inductionHypothesis⟩

/-- A run of digits does not begin with a mark that is no digit. -/
theorem ne_cons (run : IsDigitRun chars digits) {mark : Char}
    (noDigit : Text.digitValue? mark = none) (rest : List Char) : chars ≠ mark :: rest := by
  rintro rfl
  rcases run.exists_first with ⟨c, others, digit, same, found⟩
  cases same
  rw [noDigit] at found
  cases found

end IsDigitRun

theorem digitValue?_underscore : Text.digitValue? '_' = none := by decide

theorem isDigitRun_of_digitValues? {chars : List Char} {digits : List Nat}
    (read : digitValues? chars = some digits) : IsDigitRun chars digits := by
  fun_induction digitValues? chars generalizing digits with
  | case1 => cases read
  | case2 c =>
      rcases Option.map_eq_some_iff.mp read with ⟨digit, found, rfl⟩
      exact .last found
  | case3 c rest digit others later found inductionHypothesis =>
      cases read
      exact .spaced found (inductionHypothesis later)
  | case4 => cases read
  | case5 c rest notLast notSpaced digit others later found inductionHypothesis =>
      cases read
      exact .next found (inductionHypothesis later)
  | case6 => cases read

theorem digitValues?_of_isDigitRun {chars : List Char} {digits : List Nat}
    (run : IsDigitRun chars digits) : digitValues? chars = some digits := by
  induction run with
  | last found => rw [digitValues?, found, Option.map_some]
  | @next c digit chars digits found later inductionHypothesis =>
      have notLast : chars ≠ [] := by
        rintro rfl
        cases later
      have notSpaced := fun rest => later.ne_cons digitValue?_underscore rest
      rw [digitValues?.eq_4 c chars notLast notSpaced, found, inductionHypothesis]
  | spaced found _ inductionHypothesis => rw [digitValues?, found, inductionHypothesis]

/-- The digits are read exactly from runs of digits. -/
theorem digitValues?_eq_some_iff {chars : List Char} {digits : List Nat} :
    digitValues? chars = some digits ↔ IsDigitRun chars digits :=
  ⟨isDigitRun_of_digitValues?, digitValues?_of_isDigitRun⟩

/-- Reading digits from the left gives the value of the digits. -/
theorem ofDigits_eq (digits : List Nat) : ofDigits digits = Nat.ofDigits 10 digits.reverse := by
  induction digits using List.reverseRecOn with
  | nil => rfl
  | append_singleton digits digit inductionHypothesis =>
      rw [ofDigits, List.foldl_append, List.reverse_append, List.reverse_singleton,
        List.singleton_append, Nat.ofDigits_cons, ← inductionHypothesis, ofDigits, List.foldl_cons,
        List.foldl_nil]
      omega

theorem natural?_eq_some_iff {chars : List Char} {n : Nat} :
    natural? chars = some n ↔
      ∃ digits, IsDigitRun chars digits ∧ digits.length ≤ maxDigits ∧
        n = Nat.ofDigits 10 digits.reverse := by
  simp only [← digitValues?_eq_some_iff, ← ofDigits_eq]
  rw [natural?]
  cases digitValues? chars with
  | none => simp
  | some digits =>
      by_cases short : digits.length ≤ maxDigits
      · simp [short, eq_comm]
      · simp [short]

/-! ## Signs and blanks -/

/-- The signs that a numeral may have, each with the factor that it stands for. -/
def signs : List (List Char × Int) :=
  [([], 1), (['+'], 1), (['-'], -1)]

/-- A text is a numeral of an integer: between blanks there stand a sign and digits, not too many,
whose value is the integer. -/
def IsNumeral (text : String) (n : Int) : Prop :=
  ∃ before chars digits after, ∃ sign ∈ signs,
    text.toList = before ++ (sign.1 ++ chars) ++ after ∧
      (∀ c ∈ before, Text.isNumberBlank c = true) ∧
      (∀ c ∈ after, Text.isNumberBlank c = true) ∧
      IsDigitRun chars digits ∧ digits.length ≤ maxDigits ∧
      n = sign.2 * (Nat.ofDigits 10 digits.reverse : Nat)

/-- A numeral stands for no integer of more digits than it may have itself. -/
theorem IsNumeral.natAbs_lt {text : String} {n : Int} (numeral : IsNumeral text n) :
    n.natAbs < 10 ^ maxDigits := by
  rcases numeral with ⟨_, _, digits, _, sign, listed, _, _, _, run, short, rfl⟩
  have unit : sign.2.natAbs = 1 := by
    simp only [signs, List.mem_cons, List.not_mem_nil, or_false] at listed
    rcases listed with rfl | rfl | rfl <;> rfl
  have small : ∀ digit ∈ digits.reverse, digit < 10 :=
    fun digit member => run.lt_ten digit (List.mem_reverse.mp member)
  rw [Int.natAbs_mul, unit, Nat.one_mul, Int.natAbs_natCast]
  calc Nat.ofDigits 10 digits.reverse
      < 10 ^ digits.reverse.length := Nat.ofDigits_lt_base_pow_length (by decide) small
    _ ≤ 10 ^ maxDigits := by
        rw [List.length_reverse]
        exact Nat.pow_le_pow_right (by decide) short

/-- What a text without blanks around it is read as: a sign, and then a natural number. -/
def signed? : List Char -> Option Int
  | '-' :: rest => (natural? rest).map fun n : Nat => -(n : Int)
  | '+' :: rest => (natural? rest).map fun n : Nat => (n : Int)
  | chars => (natural? chars).map fun n : Nat => (n : Int)

theorem integer?_eq (text : String) :
    integer? text = signed? (Text.trimChars Text.isNumberBlank text.toList) := by
  rw [integer?]
  generalize Text.trimChars Text.isNumberBlank text.toList = chars
  split
  · rename_i rest
    rw [signed?]
    cases natural? rest <;> rfl
  · rename_i rest
    rw [signed?]
    cases natural? rest <;> rfl
  · rename_i noMinus noPlus
    rw [signed?.eq_3 chars noMinus noPlus]
    cases natural? chars <;> rfl

theorem exists_sign_of_signed? {chars : List Char} {n : Int} (read : signed? chars = some n) :
    ∃ sign ∈ signs, ∃ digitChars size, chars = sign.1 ++ digitChars ∧
      natural? digitChars = some size ∧ n = sign.2 * size := by
  rw [signed?.eq_def] at read
  split at read
  · rcases Option.map_eq_some_iff.mp read with ⟨size, found, rfl⟩
    exact ⟨(['-'], -1), by decide, _, size, rfl, found, by simp⟩
  · rcases Option.map_eq_some_iff.mp read with ⟨size, found, rfl⟩
    exact ⟨(['+'], 1), by decide, _, size, rfl, found, by simp⟩
  · rcases Option.map_eq_some_iff.mp read with ⟨size, found, rfl⟩
    exact ⟨([], 1), by decide, _, size, rfl, found, by simp⟩

theorem signed?_of_sign {sign : List Char × Int} (known : sign ∈ signs) {chars : List Char}
    {digits : List Nat} (run : IsDigitRun chars digits) {size : Nat}
    (found : natural? chars = some size) : signed? (sign.1 ++ chars) = some (sign.2 * size) := by
  simp only [signs, List.mem_cons, List.not_mem_nil, or_false] at known
  rcases known with rfl | rfl | rfl
  · have noMinus := run.ne_cons (show Text.digitValue? '-' = none by decide)
    have noPlus := run.ne_cons (show Text.digitValue? '+' = none by decide)
    rw [List.nil_append, signed?.eq_3 chars noMinus noPlus, found]
    simp
  · rw [List.singleton_append, signed?, found]
    simp
  · rw [List.singleton_append, signed?, found]
    simp

/-- A signed run of digits begins and ends with characters that are no blanks. -/
theorem exists_ends_of_signed {sign : List Char × Int} (known : sign ∈ signs) {chars : List Char}
    {digits : List Nat} (run : IsDigitRun chars digits) :
    ∃ first rest start last, sign.1 ++ chars = first :: rest ∧ sign.1 ++ chars = start ++ [last] ∧
      Text.isNumberBlank first = false ∧ Text.isNumberBlank last = false := by
  rcases run.exists_last with ⟨start, last, lastDigit, ends, lastFound⟩
  have lastStays := Text.isNumberBlank_of_digit lastFound
  have finish : sign.1 ++ chars = (sign.1 ++ start) ++ [last] := by
    rw [ends, List.append_assoc]
  simp only [signs, List.mem_cons, List.not_mem_nil, or_false] at known
  rcases known with rfl | rfl | rfl
  · rcases run.exists_first with ⟨first, rest, digit, begins, found⟩
    exact ⟨first, rest, _, last, begins, finish, Text.isNumberBlank_of_digit found, lastStays⟩
  · exact ⟨'+', chars, _, last, rfl, finish, by decide, lastStays⟩
  · exact ⟨'-', chars, _, last, rfl, finish, by decide, lastStays⟩

/-- An integer is read exactly from its numerals. -/
theorem integer?_eq_some_iff {text : String} {n : Int} :
    integer? text = some n ↔ IsNumeral text n := by
  rw [integer?_eq]
  constructor
  · intro read
    rcases Text.exists_ends_of_trimChars Text.isNumberBlank text.toList with
      ⟨before, after, whole, blankBefore, blankAfter⟩
    rcases exists_sign_of_signed? read with ⟨sign, known, chars, size, split, found, rfl⟩
    rcases natural?_eq_some_iff.mp found with ⟨digits, run, short, rfl⟩
    rw [split] at whole
    exact ⟨before, chars, digits, after, sign, known, whole, blankBefore, blankAfter, run, short,
      rfl⟩
  · rintro ⟨before, chars, digits, after, sign, known, whole, blankBefore, blankAfter, run, short,
      rfl⟩
    rcases exists_ends_of_signed known run with
      ⟨first, rest, start, last, begins, ends, firstStays, lastStays⟩
    rw [whole, Text.trimChars_eq blankBefore blankAfter begins ends firstStays lastStays]
    exact signed?_of_sign known run (natural?_eq_some_iff.mpr ⟨digits, run, short, rfl⟩)

/-! ## The shortest numeral -/

theorem digitValue?_digitChar : ∀ digit < 10,
    Text.digitValue? (Nat.digitChar digit) = some digit := by
  decide

theorem IsDigitRun.concat {chars : List Char} {digits : List Nat}
    (run : IsDigitRun chars digits) {c : Char} {digit : Nat}
    (found : Text.digitValue? c = some digit) :
    IsDigitRun (chars ++ [c]) (digits ++ [digit]) := by
  induction run with
  | last earlier => exact .next earlier (.last found)
  | next earlier _ inductionHypothesis => exact .next earlier inductionHypothesis
  | spaced earlier _ inductionHypothesis => exact .spaced earlier inductionHypothesis

/-- The decimal digits of a natural number are a run of digits with this value. -/
theorem exists_isDigitRun_toDigits (n : Nat) :
    ∃ digits, IsDigitRun (Nat.toDigits 10 n) digits ∧
      digits.length = (Nat.toDigits 10 n).length ∧ n = Nat.ofDigits 10 digits.reverse := by
  induction n using Nat.strong_induction_on with
  | _ n inductionHypothesis =>
      by_cases single : n < 10
      · refine ⟨[n], ?_, ?_, ?_⟩
        · rw [Nat.toDigits_of_lt_base single]
          exact .last (digitValue?_digitChar n single)
        · rw [Nat.toDigits_of_lt_base single, List.length_singleton, List.length_singleton]
        · rw [List.reverse_singleton, Nat.ofDigits_singleton]
      · rcases inductionHypothesis (n / 10) (by omega) with ⟨digits, run, count, value⟩
        have unit := digitValue?_digitChar (n % 10) (Nat.mod_lt n (by decide))
        have shown : Nat.toDigits 10 n = Nat.toDigits 10 (n / 10) ++ [Nat.digitChar (n % 10)] :=
          Nat.toDigits_of_base_le (by decide) (by omega)
        refine ⟨digits ++ [n % 10], ?_, ?_, ?_⟩
        · rw [shown]
          exact run.concat unit
        · rw [shown, List.length_append, List.length_append, count, List.length_singleton,
            List.length_singleton]
        · rw [List.reverse_append, List.reverse_singleton, List.singleton_append,
            Nat.ofDigits_cons, ← value]
          omega

/-- An integer that is not too long is read back from its text. -/
theorem integer?_integerText {n : Int}
    (short : (Nat.toDigits 10 n.natAbs).length ≤ maxDigits) :
    integer? (integerText n) = some n := by
  rcases exists_isDigitRun_toDigits n.natAbs with ⟨digits, run, count, value⟩
  have noBlanks : ∀ c ∈ ([] : List Char), Text.isNumberBlank c = true :=
    fun _ member => absurd member List.not_mem_nil
  have short : digits.length ≤ maxDigits := count ▸ short
  rw [integer?_eq_some_iff]
  by_cases negative : n < 0
  · refine ⟨[], _, digits, [], (['-'], -1), by decide, ?_, noBlanks, noBlanks, run, short, ?_⟩
    · rw [toList_integerText, if_pos negative]
      simp
    · rw [← value]
      omega
  · refine ⟨[], _, digits, [], ([], 1), by decide, ?_, noBlanks, noBlanks, run, short, ?_⟩
    · rw [toList_integerText, if_neg negative]
      simp
    · rw [← value]
      omega

end Number
end RefTree
