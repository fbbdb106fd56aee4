import RefTree.Document.Value
import RefTree.Number.Integer
import RefTree.Number.Shortest
import RefTree.Text.Quoted

namespace RefTree
namespace Document
namespace Value

/-!
# How messages and labels show a value

A value is shown in one of two forms.  The quoted form puts texts in quotes and is also used for
everything inside a list or an object.  The plain form differs only for a text standing alone,
which is shown as it is.
-/

mutual

def quoted : Value -> String
  | .null => "None"
  | .bool true => "True"
  | .bool false => "False"
  | .int value => Number.integerText value
  | .double value => value.textWith "inf" "nan"
  | .text value => Text.quoted value
  | .list elements => "[" ++ String.intercalate ", " (quotedElements elements) ++ "]"
  | .object members => "\x7b" ++ String.intercalate ", " (quotedMembers members) ++ "\x7d"

def quotedElements : List Value -> List String
  | [] => []
  | value :: rest => quoted value :: quotedElements rest

/-- The members of an object, each as its quoted name and value. -/
def quotedMembers : List (String × Value) -> List String
  | [] => []
  | (name, value) :: rest => (Text.quoted name ++ ": " ++ quoted value) :: quotedMembers rest

end

def plain : Value -> String
  | .text value => value
  | value => quoted value

/-! ## Integers held by a value -/

/-- Why a value holds no integer.  An infinite number is kept apart, because it is reported
differently from a value that is no number at all. -/
inductive NoInteger where
  | infinite
  | refused
  deriving DecidableEq, Repr

/-- The integer that a value holds: an integer, a finite double without its fraction, or a text
that is an integer numeral.  A truth value holds none. -/
def integer : Value -> Except NoInteger Int
  | .int value => .ok value
  | .double (.infinite _) => .error .infinite
  | .double value =>
      match value.truncate? with
      | some n => .ok n
      | none => .error .refused
  | .text value =>
      match Number.integer? value with
      | some n => .ok n
      | none => .error .refused
  | _ => .error .refused

end Value
end Document
end RefTree
