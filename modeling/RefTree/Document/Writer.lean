import RefTree.Document.Value
import RefTree.Number.Integer
import RefTree.Number.Shortest
import RefTree.Text.Hex

namespace RefTree
namespace Document

open Number (Double)

/-!
# Writing a document

A written document holds printable ASCII only: every other character of a text is escaped, by a
short escape where there is one and by its sixteen-bit units otherwise.  Where blanks and line
breaks go is a matter of layout alone; the two layouts in use share everything else.
-/

/-- The sixteen-bit units of a character, each escaped. -/
def unitEscapes (c : Char) : List Char :=
  if c.toNat < 0x10000 then '\\' :: 'u' :: Text.hexDigits 4 c.toNat
  else
    let offset := c.toNat - 0x10000
    '\\' :: 'u' :: Text.hexDigits 4 (0xD800 + offset / 0x400) ++
      '\\' :: 'u' :: Text.hexDigits 4 (0xDC00 + offset % 0x400)

def writtenChar (c : Char) : List Char :=
  if c = '"' || c = '\\' then ['\\', c]
  else if c = '\n' then ['\\', 'n']
  else if c = '\r' then ['\\', 'r']
  else if c = '\t' then ['\\', 't']
  else if c = Char.ofNat 0x08 then ['\\', 'b']
  else if c = Char.ofNat 0x0C then ['\\', 'f']
  else if ' ' ≤ c && c ≤ '~' then [c]
  else unitEscapes c

/-- A written text, with its marks. -/
def writtenText (text : String) : List Char :=
  '"' :: text.toList.flatMap writtenChar ++ ['"']

/-- The blanks of a layout at each depth: inside the brackets of a container, and after a comma
in it. -/
structure Layout where
  edge : (depth : Nat) -> List Char
  gap : (depth : Nat) -> List Char

/-- Everything on one line, with one blank after a comma. -/
def Layout.line : Layout where
  edge := fun _ => []
  gap := fun _ => [' ']

/-- Every element and member on a line of its own, indented by two blanks for each depth. -/
def Layout.block : Layout where
  edge := fun depth => '\n' :: List.replicate (2 * depth) ' '
  gap := fun depth => '\n' :: List.replicate (2 * depth) ' '

mutual

/-- A written value, at a depth of nesting. -/
def written (layout : Layout) (depth : Nat) : Value -> List Char
  | .null => "null".toList
  | .bool true => "true".toList
  | .bool false => "false".toList
  | .int value => (Number.integerText value).toList
  | .double value => (value.textWith "Infinity" "NaN").toList
  | .text value => writtenText value
  | .list [] => ['[', ']']
  | .list (first :: rest) =>
      '[' :: (layout.edge (depth + 1) ++ written layout (depth + 1) first ++
        writtenElements layout (depth + 1) rest ++ layout.edge depth ++ [']'])
  | .object [] => ['{', '}']
  | .object ((name, value) :: rest) =>
      '{' :: (layout.edge (depth + 1) ++ writtenText name ++ ':' :: ' ' ::
        written layout (depth + 1) value ++ writtenMembers layout (depth + 1) rest ++
        layout.edge depth ++ ['}'])

/-- The elements after the first, each with the comma before it. -/
def writtenElements (layout : Layout) (depth : Nat) : List Value -> List Char
  | [] => []
  | value :: rest =>
      ',' :: (layout.gap depth ++ written layout depth value ++
        writtenElements layout depth rest)

/-- The members after the first, each with the comma before it. -/
def writtenMembers (layout : Layout) (depth : Nat) : List (String × Value) -> List Char
  | [] => []
  | (name, value) :: rest =>
      ',' :: (layout.gap depth ++ writtenText name ++ ':' :: ' ' ::
        written layout depth value ++ writtenMembers layout depth rest)

end

def writeLine (value : Value) : List Char :=
  written Layout.line 0 value

/-- A document over several lines, ended by a line feed. -/
def writeBlock (value : Value) : List Char :=
  written Layout.block 0 value ++ ['\n']

end Document
end RefTree
