import RefTree.Path
import RefTree.Reference.Decode

namespace RefTree

open Document

/-!
# Snapshots and their queries

A snapshot is a document that lists symbols and files together with the references between them.
Every query reads the document again, so an answer depends on the snapshot alone and never on an
earlier query.  Parts of the wrong shape count as missing where that is harmless; where an answer
would be wrong the query fails with the cause.
-/

/-- A snapshot: the members of its document. -/
structure Snapshot where
  members : Members

namespace Snapshot

/-- Take a document as a snapshot.  Only an object can be one. -/
def ofValue : Value -> Except Fault Snapshot
  | .object members => .ok ⟨members⟩
  | _ => .error .notAnObject

def document (snapshot : Snapshot) : Value :=
  .object snapshot.members

/-- A top-level table of the snapshot, empty unless it is an object. -/
def table (snapshot : Snapshot) (name : String) : Members :=
  match Members.find? name snapshot.members with
  | some (.object members) => members
  | _ => []

def symbolRecord (snapshot : Snapshot) (id : String) : Except Fault Members :=
  match Members.find? id (snapshot.table "symbols") with
  | some (.object members) => .ok members
  | _ => .error (.unknownSymbol id)

def fileRecord (snapshot : Snapshot) (id : String) : Except Fault Members :=
  match Members.find? id (snapshot.table "files") with
  | some (.object members) => .ok members
  | _ => .error (.unknownFile id)

/-- One entry of a category table: a name and an integer id. -/
def categoryEntry (entry : String × Value) : Except Fault (String × Int) := do
  let id <- integerField (.categoryId (Text.quoted entry.1)) entry.2
  return (entry.1, id)

/-- The names and ids in a category table, in stored order.  What is no table holds none. -/
def categoriesOf : Option Value -> Except Fault (List (String × Int))
  | some (.object members) => members.mapM categoryEntry
  | _ => .ok []

/-- The references stored under a category.  The category must be known as an integer, and its
references are then found by its plain form. -/
def referencesOf (stored : Option Value) (known : List (String × Int)) (owner : String)
    (category : Value) : Except Fault (List Reference) := do
  let id <- match category.integer with
    | .ok id => .ok id
    | .error .infinite => .error .infiniteInteger
    | .error .refused => .error (.categoryNotInteger category.quoted)
  if !(known.any fun entry => entry.2 == id) then
    .error (.unknownCategory category.plain owner)
  let lists : Members := match stored with
    | some (.object members) => members
    | _ => []
  match Members.find? category.plain lists with
  | none => return []
  | some (.list payloads) => payloads.mapM Reference.decode
  | some _ => .error (.referencesNotList category.plain owner)

/-- The properties of a symbol, in stored order. -/
def properties (snapshot : Snapshot) (symbol : String) : Except Fault (List (String × String)) := do
  let record <- snapshot.symbolRecord symbol
  match Members.find? "properties" record with
  | some (.object members) => return members.map fun entry => (entry.1, entry.2.plain)
  | _ => return []

/-- The reference categories of a symbol, in stored order. -/
def categories (snapshot : Snapshot) (symbol : String) :
    Except Fault (List (String × Int)) := do
  let record <- snapshot.symbolRecord symbol
  categoriesOf (Members.find? "reference_types" record)

/-- The references of a symbol in a category, in stored order. -/
def references (snapshot : Snapshot) (symbol : String) (category : Value) :
    Except Fault (List Reference) := do
  let record <- snapshot.symbolRecord symbol
  let known <- categoriesOf (Members.find? "reference_types" record)
  referencesOf (Members.find? "references" record) known ("symbol " ++ symbol) category

/-- The reference categories of a file, in stored order. -/
def fileCategories (snapshot : Snapshot) (file : String) :
    Except Fault (List (String × Int)) := do
  let _ <- snapshot.fileRecord file
  categoriesOf (Members.find? file (snapshot.table "file_reference_types"))

/-- The references of a file in a category, in stored order. -/
def fileReferences (snapshot : Snapshot) (file : String) (category : Value) :
    Except Fault (List Reference) := do
  let known <- snapshot.fileCategories file
  referencesOf (Members.find? file (snapshot.table "file_references")) known
    ("file " ++ file) category

/-- The name of a file: the stored name, else the last component of its path, else its id. -/
def fileName (record : Members) (path id : String) : String :=
  let derived := if (Path.ofText path).name = "" then id else (Path.ofText path).name
  match Members.find? "name" record with
  | some value => if value.isFalsy then derived else value.plain
  | none => derived

def file (snapshot : Snapshot) (id : String) : Except Fault FileHandle := do
  let record <- snapshot.fileRecord id
  let path := plainField (Members.find? "path" record)
  return { id, name := fileName record path id, path }

/-- The payload of a symbol that has a range.  An id in its own record goes before the id that it
is stored under. -/
def symbolPayload (id : Value) (record : Members) : Members :=
  ("id", (Members.find? "id" record).getD id) :: Members.erase "id" record

/-- A symbol by its id.  A record with a range is read like a reference. -/
def symbol (snapshot : Snapshot) (id : Value) : Except Fault Symbol := do
  let record <- snapshot.symbolRecord id.plain
  match Members.find? "range" record with
  | some _ => return Symbol.ofReference (<- Reference.ofMembers (symbolPayload id record))
  | none =>
      let owner := "symbol " ++ id.quoted
      let tags <- tagsField owner (Members.find? "tags" record)
      let nameHash <- integerMember record "mangled_name_hash" (.nameHash owner)
      return {
        id := id.plain
        range := none
        displayValue := plainField (Members.find? "display_value" record)
        tags
        nameHash }

end Snapshot
end RefTree
