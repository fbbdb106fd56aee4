import RefTree.Document.Token

namespace RefTree
namespace Document

/-!
# Reading a written document

The reader is a pushdown machine over tokens.  Its state says what may come next and holds the
containers that are still open, innermost first.  One step looks at one token, so the state after
a prefix of the tokens is a function of that prefix, and the first token that does not fit
determines the report.
-/

/-- A container that is open while a value inside it is read.  Elements are held last first. -/
inductive Frame where
  | list (elements : List Value)
  | object (members : Members) (name : String)

/-- What may come next, with the open containers. -/
inductive State where
  | needValue (stack : List Frame)
  | listStart (stack : List Frame)
  | objectStart (stack : List Frame)
  | needName (members : Members) (stack : List Frame)
  | needColon (members : Members) (name : String) (stack : List Frame)
  | complete (value : Value) (stack : List Frame)

/-- The state after a token where a value must start. -/
def stepValue (stack : List Frame) (located : Located) : Except ReadFault State :=
  match located.token with
  | .scalar value => .ok (.complete value stack)
  | .text value => .ok (.complete (.text value) stack)
  | .openList => .ok (.listStart stack)
  | .openObject => .ok (.objectStart stack)
  | .brokenText fault => .error fault
  | .brokenNumber fault => .error fault
  | _ => .error (.malformed .expectingValue located.position)

/-- The state after a token where a member name must start. -/
def stepName (members : Members) (stack : List Frame) (located : Located) :
    Except ReadFault State :=
  match located.token with
  | .text name => .ok (.needColon members name stack)
  | .brokenText fault => .error fault
  | _ => .error (.malformed .expectingName located.position)

/-- The state after a token that follows a complete value. -/
def stepComplete (value : Value) (stack : List Frame) (located : Located) :
    Except ReadFault State :=
  match stack with
  | [] => .error (.malformed .extraData located.position)
  | .list elements :: outer =>
      match located.token with
      | .comma => .ok (.needValue (.list (value :: elements) :: outer))
      | .closeList => .ok (.complete (.list (value :: elements).reverse) outer)
      | _ => .error (.malformed .expectingComma located.position)
  | .object members name :: outer =>
      match located.token with
      | .comma => .ok (.needName (Members.insert name value members) outer)
      | .closeObject => .ok (.complete (.object (Members.insert name value members)) outer)
      | _ => .error (.malformed .expectingComma located.position)

def State.step : State -> Located -> Except ReadFault State
  | .needValue stack, located => stepValue stack located
  | .listStart stack, located =>
      match located.token with
      | .closeList => .ok (.complete (.list []) stack)
      | _ => stepValue (.list [] :: stack) located
  | .objectStart stack, located =>
      match located.token with
      | .closeObject => .ok (.complete (.object []) stack)
      | _ => stepName [] stack located
  | .needName members stack, located => stepName members stack located
  | .needColon members name stack, located =>
      match located.token with
      | .colon => .ok (.needValue (.object members name :: stack))
      | _ => .error (.malformed .expectingColon located.position)
  | .complete value stack, located => stepComplete value stack located

def State.finish (position : Nat) : State -> Except ReadFault Value
  | .complete value [] => .ok value
  | .complete _ (_ :: _) => .error (.malformed .expectingComma position)
  | .needValue _ => .error (.malformed .expectingValue position)
  | .listStart _ => .error (.malformed .expectingValue position)
  | .objectStart _ => .error (.malformed .expectingName position)
  | .needName _ _ => .error (.malformed .expectingName position)
  | .needColon _ _ _ => .error (.malformed .expectingColon position)

/-- Run the machine over tokens, where `ending` is the position at which the text ends. -/
def State.run (ending : Nat) : State -> List Located -> Except ReadFault Value
  | state, [] => state.finish ending
  | state, located :: rest =>
      match state.step located with
      | .ok next => next.run ending rest
      | .error fault => .error fault

/-- Read a document.  A text that starts with a byte order mark is refused. -/
def parse (chars : List Char) : Except ReadFault Value :=
  if chars.head? = some (Char.ofNat 0xFEFF) then .error (.malformed .byteOrderMark 0)
  else (State.needValue []).run chars.length (tokens 0 chars)

/-! ## Reports -/

def Malformation.message : Malformation -> String
  | .byteOrderMark => "Unexpected UTF-8 BOM (decode using utf-8-sig)"
  | .expectingValue => "Expecting value"
  | .expectingName => "Expecting property name enclosed in double quotes"
  | .expectingColon => "Expecting ':' delimiter"
  | .expectingComma => "Expecting ',' delimiter"
  | .extraData => "Extra data"
  | .unterminatedText => "Unterminated string starting at"
  | .controlCharacter => "Invalid control character at"
  | .invalidEscape => "Invalid \\escape"
  | .invalidUnicodeEscape => "Invalid \\uXXXX escape"

/-- The line and the column of a position, both counted from one. -/
def lineAndColumn (chars : List Char) (position : Nat) : Nat × Nat :=
  let before := chars.take position
  let line := before.count '\n' + 1
  let column := (before.reverse.takeWhile (· != '\n')).length + 1
  (line, column)

def malformationReport (chars : List Char) (what : Malformation) (position : Nat) : String :=
  let (line, column) := lineAndColumn chars position
  what.message ++ ": line " ++ line.repr ++ " column " ++ column.repr ++
    " (char " ++ position.repr ++ ")"

end Document
end RefTree
