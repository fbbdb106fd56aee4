import RefTree.Text.CodePoint

namespace RefTree
namespace Text

/-!
# Blank characters

Three notions of blank are in use and they differ.  Trimming a text removes every Unicode white
space and the four ASCII separators 0x1C to 0x1F.  Around a number only the ASCII blanks without
those separators count, together with the white space outside ASCII.  Between the tokens of a
document only four characters count; that notion belongs to the document grammar.
-/

/-- The spans of code points that trimming removes. -/
def blankSpans : List (Nat × Nat) :=
  [(0x9, 0xD), (0x1C, 0x20), (0x85, 0x85), (0xA0, 0xA0), (0x1680, 0x1680), (0x2000, 0x200A),
   (0x2028, 0x2029), (0x202F, 0x202F), (0x205F, 0x205F), (0x3000, 0x3000)]

/-- Decide whether trimming removes the character. -/
def isBlank (c : Char) : Bool :=
  covers blankSpans c

/-- Decide whether the character may surround a number.  These are the blank characters other
than the four ASCII separators. -/
def isNumberBlank (c : Char) : Bool :=
  isBlank c && !(0x1C ≤ c.toNat && c.toNat ≤ 0x1F)

/-- Remove the characters of a class from both ends. -/
def trimChars (drop : Char -> Bool) (chars : List Char) : List Char :=
  ((chars.dropWhile drop).reverse.dropWhile drop).reverse

/-- Remove blank characters from both ends of a text. -/
def trim (text : String) : String :=
  String.ofList (trimChars isBlank text.toList)

end Text
end RefTree
