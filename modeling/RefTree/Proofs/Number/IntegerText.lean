import RefTree.Number.Integer

namespace RefTree
namespace Number

/-!
# Integers inside longer texts

Ids of rows are made by joining parts with a hyphen, which is also the sign of a negative integer
and may stand in any other part.  An integer followed by a hyphen can still be told from the text
after it: past the sign it is digits only, so the next hyphen ends it.  A mark that stands in no
integer at all, such as the colon in a label, ends it in any case.
-/

/-! ## Decimal digits -/

theorem toDigits_inj {m n : Nat} (equal : Nat.toDigits 10 m = Nat.toDigits 10 n) : m = n := by
  have read := congrArg (fun digits => Nat.ofDigitChars 10 digits 0) equal
  simpa only [Nat.ofDigitChars_ten_toDigits] using read

theorem not_mem_toDigits {c : Char} (noDigit : c.isDigit = false) (n : Nat) :
    c ∉ Nat.toDigits 10 n := by
  intro member
  have digit : c.isDigit = true := Nat.isDigit_of_mem_toDigits (by decide) (by decide) member
  rw [noDigit] at digit
  cases digit

theorem hyphen_not_mem_toDigits (n : Nat) : '-' ∉ Nat.toDigits 10 n :=
  not_mem_toDigits (by decide) n

theorem toList_integerText (n : Int) :
    (integerText n).toList =
      if n < 0 then '-' :: Nat.toDigits 10 n.natAbs else Nat.toDigits 10 n.natAbs := by
  unfold integerText
  by_cases negative : n < 0
  · simp [negative, Nat.toList_repr]
  · simp [negative, Nat.toList_repr]

/-! ## The first hyphen after digits -/

/-- A mark ends what it does not occur in. -/
theorem append_mark_inj {mark : Char} {first second left right : List Char}
    (noneFirst : mark ∉ first) (noneSecond : mark ∉ second)
    (equal : first ++ mark :: left = second ++ mark :: right) : first = second ∧ left = right := by
  induction first generalizing second with
  | nil =>
      cases second with
      | nil => exact ⟨rfl, (List.cons.inj equal).2⟩
      | cons head tail =>
          have same : mark = head := (List.cons.inj equal).1
          exact False.elim (noneSecond (same ▸ List.mem_cons_self))
  | cons head tail inductionHypothesis =>
      cases second with
      | nil =>
          have same : head = mark := (List.cons.inj equal).1
          exact False.elim (noneFirst (same ▸ List.mem_cons_self))
      | cons other rest =>
          have parts := List.cons.inj equal
          have tails := inductionHypothesis
            (fun member => noneFirst (List.mem_cons_of_mem _ member))
            (fun member => noneSecond (List.mem_cons_of_mem _ member)) parts.2
          exact ⟨by rw [parts.1, tails.1], tails.2⟩

/-- Digits never start with a hyphen, so they are not the text of a negative integer. -/
theorem toDigits_append_ne_hyphen (n : Nat) (left right : List Char) :
    Nat.toDigits 10 n ++ left ≠ '-' :: right := by
  intro equal
  cases digits : Nat.toDigits 10 n with
  | nil => exact Nat.toDigits_ne_nil digits
  | cons first rest =>
      rw [digits, List.cons_append] at equal
      have same : first = '-' := (List.cons.inj equal).1
      have member : first ∈ Nat.toDigits 10 n := digits ▸ List.mem_cons_self
      exact hyphen_not_mem_toDigits n (same ▸ member)

/-- An integer followed by a hyphen and any text determines both. -/
theorem integerText_hyphen_inj {m n : Int} {left right : List Char}
    (equal : (integerText m).toList ++ '-' :: left = (integerText n).toList ++ '-' :: right) :
    m = n ∧ left = right := by
  rw [toList_integerText, toList_integerText] at equal
  by_cases first : m < 0
  · by_cases second : n < 0
    · rw [if_pos first, if_pos second, List.cons_append, List.cons_append] at equal
      have parts := append_mark_inj (hyphen_not_mem_toDigits _) (hyphen_not_mem_toDigits _)
        (List.cons.inj equal).2
      have sizes := toDigits_inj parts.1
      exact ⟨by omega, parts.2⟩
    · rw [if_pos first, if_neg second, List.cons_append] at equal
      exact False.elim (toDigits_append_ne_hyphen _ _ _ equal.symm)
  · by_cases second : n < 0
    · rw [if_neg first, if_pos second, List.cons_append] at equal
      exact False.elim (toDigits_append_ne_hyphen _ _ _ equal)
    · rw [if_neg first, if_neg second] at equal
      have parts := append_mark_inj (hyphen_not_mem_toDigits _) (hyphen_not_mem_toDigits _)
        equal
      have sizes := toDigits_inj parts.1
      exact ⟨by omega, parts.2⟩

/-! ## Marks that stand in no integer -/

theorem integerText_inj {m n : Int} (equal : integerText m = integerText n) : m = n :=
  (@integerText_hyphen_inj m n [] [] (by rw [equal])).1

theorem not_mem_integerText {c : Char} (noDigit : c.isDigit = false) (noSign : c ≠ '-') (n : Int) :
    c ∉ (integerText n).toList := by
  have noneIn := not_mem_toDigits noDigit n.natAbs
  rw [toList_integerText]
  split
  · exact List.not_mem_cons_of_ne_of_not_mem noSign noneIn
  · exact noneIn

/-- An integer followed by a mark that stands in no integer determines what comes after it. -/
theorem integerText_mark_inj {mark : Char} (noDigit : mark.isDigit = false) (noSign : mark ≠ '-')
    {m n : Int} {left right : List Char}
    (equal : (integerText m).toList ++ mark :: left = (integerText n).toList ++ mark :: right) :
    m = n ∧ left = right := by
  have parts := append_mark_inj (not_mem_integerText noDigit noSign m)
    (not_mem_integerText noDigit noSign n) equal
  exact ⟨integerText_inj (String.toList_inj.mp parts.1), parts.2⟩

/-- An integer starts with a digit, or with its sign and a digit. -/
theorem exists_start_integerText (n : Int) :
    ∃ digit rest, digit.isDigit = true ∧
      ((integerText n).toList = digit :: rest ∨ (integerText n).toList = '-' :: digit :: rest) := by
  rw [toList_integerText]
  cases digits : Nat.toDigits 10 n.natAbs with
  | nil => exact absurd digits Nat.toDigits_ne_nil
  | cons digit rest =>
      have member : digit ∈ Nat.toDigits 10 n.natAbs := digits ▸ List.mem_cons_self
      refine ⟨digit, rest, Nat.isDigit_of_mem_toDigits (by decide) (by decide) member, ?_⟩
      split
      · exact Or.inr rfl
      · exact Or.inl rfl

end Number
end RefTree
