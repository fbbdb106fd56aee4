import RefTree.Text.Hex
import RefTree.Text.Printable

namespace RefTree
namespace Text

/-!
# Quoted texts

Messages show a text in quotes so that its ends and its invisible characters can be seen.  The
apostrophe is the preferred mark; a text that holds apostrophes and no double quote is put in
double quotes instead.  Inside the marks, the mark and the backslash are escaped, three controls
have short escapes, and every other character that cannot be shown is named by its code point in
the shortest of three fixed widths.
-/

/-- The mark that surrounds a quoted text. -/
def quoteMark (chars : List Char) : Char :=
  if chars.contains '\'' && !chars.contains '"' then '"' else '\''

def codePointEscape (c : Char) : List Char :=
  if c.toNat < 0x100 then '\\' :: 'x' :: hexDigits 2 c.toNat
  else if c.toNat < 0x10000 then '\\' :: 'u' :: hexDigits 4 c.toNat
  else '\\' :: 'U' :: hexDigits 8 c.toNat

/-- One character of a quoted text, given the mark around it. -/
def quotedChar (mark c : Char) : List Char :=
  if c = mark || c = '\\' then ['\\', c]
  else if c = '\n' then ['\\', 'n']
  else if c = '\r' then ['\\', 'r']
  else if c = '\t' then ['\\', 't']
  else if isPrintable c then [c]
  else codePointEscape c

def quoted (text : String) : String :=
  let mark := quoteMark text.toList
  String.ofList (mark :: text.toList.flatMap (quotedChar mark) ++ [mark])

end Text
end RefTree
