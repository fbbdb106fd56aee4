import RefTree.Number.Double

namespace RefTree
namespace Document

open Number (Double)

/-!
# Document values

A document is a nested value: scalars, lists, and objects whose members keep the order in which
they were written.  Integers are unbounded and separate from doubles.  An object built by this
library never repeats a member name, because `Members.insert` replaces the value in place.
-/

inductive Value where
  | null
  | bool (value : Bool)
  | int (value : Int)
  | double (value : Double)
  | text (value : String)
  | list (elements : List Value)
  | object (members : List (String × Value))

instance : Inhabited Value := ⟨.null⟩

/-- The members of an object, in order. -/
abbrev Members := List (String × Value)

namespace Members

def find? (name : String) : Members -> Option Value
  | [] => none
  | (other, value) :: rest => if other = name then some value else find? name rest

/-- Give a member a value.  A member that exists keeps its place; a new one comes last. -/
def insert (name : String) (value : Value) : Members -> Members
  | [] => [(name, value)]
  | (other, old) :: rest =>
      if other = name then (name, value) :: rest else (other, old) :: insert name value rest

def erase (name : String) (members : Members) : Members :=
  members.filter fun member => member.1 != name

def modify (name : String) (change : Value -> Value) (members : Members) : Members :=
  members.map fun member => if member.1 = name then (member.1, change member.2) else member

@[simp]
theorem find?_insert_self (name : String) (value : Value) (members : Members) :
    find? name (insert name value members) = some value := by
  induction members with
  | nil => simp [insert, find?]
  | cons head rest inductionHypothesis =>
      by_cases same : head.1 = name
      · simp [insert, find?, same]
      · simp [insert, find?, same, inductionHypothesis]

/-- Inserting a member leaves the values of all other members alone. -/
theorem find?_insert_of_ne (name key : String) (value : Value) (members : Members)
    (different : key ≠ name) : find? key (insert name value members) = find? key members := by
  induction members with
  | nil => simp [insert, find?, different.symm]
  | cons head rest inductionHypothesis =>
      by_cases same : head.1 = name
      · simp [insert, find?, same, different.symm]
      · simp [insert, find?, same, inductionHypothesis]

end Members

namespace Value

/-- Decide whether a value counts as empty: null, false, zero, or an empty text, list or
object. -/
def isFalsy : Value -> Bool
  | .null => true
  | .bool value => !value
  | .int value => value == 0
  | .double value => value.isZero
  | .text value => value.isEmpty
  | .list elements => elements.isEmpty
  | .object members => members.isEmpty

/-- The members of an object, and none for other values. -/
def members? : Value -> Option Members
  | .object members => some members
  | _ => none

/-- The word that messages use for the kind of a value. -/
def typeWord : Value -> String
  | .null => "NoneType"
  | .bool _ => "bool"
  | .int _ => "int"
  | .double _ => "float"
  | .text _ => "str"
  | .list _ => "list"
  | .object _ => "dict"

end Value

/-! ## Changing a document in place -/

/-- One step from a value to a part of it.  A negative element index counts from the end. -/
inductive Step where
  | member (name : String)
  | element (index : Int)
  deriving DecidableEq, Repr

/-- The position that an element index means in a list of a given length. -/
def elementPosition (length : Nat) (index : Int) : Nat :=
  if 0 ≤ index then index.toNat else (length + index).toNat

namespace Value

/-- Apply a function to the part of a value that a path leads to.  A path that leads nowhere
changes nothing. -/
def modify (change : Value -> Value) : List Step -> Value -> Value
  | [], value => change value
  | .member name :: rest, .object members =>
      .object (Members.modify name (modify change rest) members)
  | .element index :: rest, .list elements =>
      .list (elements.modify (elementPosition elements.length index) (modify change rest))
  | _, value => value

/-- Give one direct part of a value: a member, which may be new, or an existing element. -/
def setStep (step : Step) (new : Value) : Value -> Value
  | .object members =>
      match step with
      | .member name => .object (Members.insert name new members)
      | .element _ => .object members
  | .list elements =>
      match step with
      | .element index => .list (elements.set (elementPosition elements.length index) new)
      | .member _ => .list elements
  | value => value

def eraseStep (step : Step) : Value -> Value
  | .object members =>
      match step with
      | .member name => .object (Members.erase name members)
      | .element _ => .object members
  | .list elements =>
      match step with
      | .element index => .list (elements.eraseIdx (elementPosition elements.length index))
      | .member _ => .list elements
  | value => value

/-- Set the part of a value at a path.  The empty path leads to no part and changes nothing. -/
def setAt (path : List Step) (new : Value) (value : Value) : Value :=
  match path.getLast? with
  | some last => value.modify (setStep last new) path.dropLast
  | none => value

def eraseAt (path : List Step) (value : Value) : Value :=
  match path.getLast? with
  | some last => value.modify (eraseStep last) path.dropLast
  | none => value

end Value
end Document
end RefTree
