import RefTree.Document.Shown
import RefTree.Fault
import RefTree.Reference

namespace RefTree

open Document

/-!
# Reading references from a document

A reference payload is an object.  It must have an id, and a range that names a file; positions
and the name hash are integers and default to zero.  Numbers may be written as numerals in a text,
and ids may be any value, since only their plain form counts.  Checks are made in a fixed order,
and the first that fails is the one reported.
-/

def integerField (field : IntegerField) (value : Value) : Except Fault Int :=
  match value.integer with
  | .ok n => .ok n
  | .error .infinite => .error .infiniteInteger
  | .error .refused => .error (.notInteger field value.quoted)

/-- The tags in an optional field.  A missing or empty value of any kind means no tags. -/
def tagsField (owner : String) (field : Option Value) : Except Fault (List String) :=
  match field with
  | none => .ok []
  | some (.list elements) => .ok (tagSet (elements.map Value.plain))
  | some value => if value.isFalsy then .ok [] else .error (.tagsNotList owner)

/-- The plain form of an optional field, and the empty text if it is missing. -/
def plainField (field : Option Value) : String :=
  match field with
  | none => ""
  | some value => value.plain

/-- The file that a range names.  Neither null nor the empty text names one. -/
def fileField? (range : Members) : Option String :=
  match Members.find? "file" range with
  | none | some .null => none
  | some (.text file) => if file = "" then none else some file
  | some value => some value.plain

/-- The members of the start position, of which there are none unless it is an object. -/
def startPosition (range : Members) : Members :=
  match Members.find? "startpos" range with
  | some (.object members) => members
  | _ => []

/-- An integer member that defaults to zero. -/
def integerMember (members : Members) (name : String) (field : IntegerField) :
    Except Fault Int :=
  integerField field ((Members.find? name members).getD (.int 0))

/-- Read a reference from the members of its payload. -/
def Reference.ofMembers (members : Members) : Except Fault Reference := do
  let some idValue := Members.find? "id" members | .error .payloadWithoutId
  let id := idValue.plain
  let some (.object range) := Members.find? "range" members | .error (.withoutRange id)
  let some file := fileField? range | .error (.withoutFile id)
  let start := startPosition range
  let owner := "reference " ++ Text.quoted id
  let tags <- tagsField owner (Members.find? "tags" members)
  let line <- integerMember start "line" (.line (Text.quoted id))
  let column <- integerMember start "column" (.column (Text.quoted id))
  let nameHash <- integerMember members "mangled_name_hash" (.nameHash owner)
  return {
    id
    range := some { file, line, column }
    displayValue := plainField (Members.find? "display_value" members)
    tags
    nameHash }

def Reference.decode : Value -> Except Fault Reference
  | .object members => Reference.ofMembers members
  | value => .error (.payloadNotObject value.typeWord)

end RefTree
