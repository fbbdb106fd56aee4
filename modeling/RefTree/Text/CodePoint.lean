namespace RefTree
namespace Text

/-!
# Classes of characters as spans of code points

The character classes of this library come from the Unicode 14 tables.  A class is a list of
closed spans of code points; membership is decided by looking at every span, so no order of the
spans is needed for correctness.
-/

/-- Decide whether some span of the table holds the code point of the character. -/
def covers (spans : List (Nat × Nat)) (c : Char) : Bool :=
  spans.any fun span => span.1 ≤ c.toNat && c.toNat ≤ span.2

/-- Membership in a table of spans, as a proposition. -/
theorem covers_iff (spans : List (Nat × Nat)) (c : Char) :
    covers spans c = true ↔ ∃ span ∈ spans, span.1 ≤ c.toNat ∧ c.toNat ≤ span.2 := by
  simp [covers]

end Text
end RefTree
