import RefTree.Document.Writer
import RefTree.Snapshot.Load
import RefTree.Text.Blank

namespace RefTree

open Document

/-!
# Persistent settings

Settings are the members of a document in a file.  Reading never fails because of what the file
holds, with one exception: an integer of too many digits is reported.  A file that is missing,
cannot be read or makes no sense counts as empty.  Saving a setting reads the file, replaces one
member and writes the whole document again, so all other members stay.  If the file cannot be
written, saving changes nothing.
-/

namespace Settings

/-- What stands where the settings are kept.  The place is blocked if its directory cannot exist. -/
inductive Store where
  | missing
  | file (octets : List UInt8)
  | readOnly (octets : List UInt8)
  | unreadable
  | directory
  | blocked
  deriving DecidableEq, Repr

/-- What can be read where the settings are kept. -/
def Store.octets? : Store -> Option (List UInt8)
  | .file octets | .readOnly octets => some octets
  | .missing | .unreadable | .directory | .blocked => none

def Store.ofEntry : Entry -> Store
  | .missing => .missing
  | .tooLong => .blocked
  | .directory => .directory
  | .file octets => .file octets
  | .unreadable _ => .unreadable

/-- The number of levels printed unless another one is set. -/
def defaultDepth : Int := 2

/-- The style of values unless another one is set. -/
def defaultStyle : String := "monokai"

def load (store : Store) : Except Fault Members :=
  match store.octets? with
  | some octets =>
      match Document.ofOctets octets with
      | .ok (.object members) => .ok members
      | .error (.integerTooLong digits) => .error (.integerTooLong digits)
      | _ => .ok []
  | none => .ok []

/-- Write a document where the settings are kept.  What is written to a file that cannot be read is
never seen again, so such a file stays what it is. -/
def save (document : Value) : Store -> Store
  | .missing | .file _ => .file (Text.Utf8.encode (writeBlock document))
  | .readOnly octets => .readOnly octets
  | .unreadable => .unreadable
  | .directory => .directory
  | .blocked => .blocked

/-- The text of a setting without blanks around it, if it is a text and not blank. -/
def loadText (name : String) (store : Store) : Except Fault (Option String) := do
  match Members.find? name (<- load store) with
  | some (.text value) =>
      let trimmed := Text.trim value
      return if trimmed = "" then none else some trimmed
  | _ => return none

/-- Save the text of a setting.  A blank text is not saved. -/
def saveText (name value : String) (store : Store) : Except Fault Store :=
  let trimmed := Text.trim value
  if trimmed = "" then .ok store
  else do
    let members <- load store
    return save (.object (Members.insert name (.text trimmed) members)) store

def loadTheme (store : Store) : Except Fault (Option String) :=
  loadText "theme" store

def saveTheme (value : Value) (store : Store) : Except Fault Store :=
  saveText "theme" value.plain store

def loadStyle (store : Store) : Except Fault String := do
  return (<- loadText "style" store).getD defaultStyle

def saveStyle (value : Value) (store : Store) : Except Fault Store :=
  saveText "style" value.plain store

/-- The path of the snapshot that is opened when none is given. -/
def loadSnapshotPath (homes : Homes) (store : Store) : Except Fault (Option Path) := do
  match <- loadText "snapshot" store with
  | some text => return some (<- (Path.ofText text).expandHome homes)
  | none => return none

/-- Choose the snapshot that is opened when none is given. -/
def saveSnapshotPath (path : Path) (store : Store) : Except Fault Store :=
  saveText "snapshot" path.text store

/-- The number of levels to print: a stored integer of at least one, else the default. -/
def loadDepth (store : Store) : Except Fault Int := do
  match Members.find? "depth" (<- load store) with
  | some (.int depth) => return if depth < 1 then defaultDepth else depth
  | _ => return defaultDepth

/-- Decide whether a value is below one.  Only numbers and truth values can be compared. -/
def isBelowOne : Value -> Except Fault Bool
  | .int value => .ok (value < 1)
  | .bool value => .ok !value
  | .double value => .ok value.isBelowOne
  | value => .error (.notComparable value.typeWord "int")

/-- The whole number of levels in a value that is not below one. -/
def depthOf : Value -> Except Fault Int
  | .int value => .ok value
  | .bool value => .ok (if value then 1 else 0)
  | .double .nan => .error .undefinedInteger
  | .double value =>
      match value.truncate? with
      | some depth => .ok depth
      | none => .error .infiniteInteger
  | value => .error (.notComparable value.typeWord "int")

/-- Set the number of levels to print.  A number below one is not saved. -/
def saveDepth (value : Value) (store : Store) : Except Fault Store := do
  if <- isBelowOne value then return store
  let members <- load store
  let depth <- depthOf value
  return save (.object (Members.insert "depth" (.int depth) members)) store

/-- The content of the file as text, if there is a file that can be read. -/
def Store.text? (store : Store) : Option String :=
  store.octets?.map fun octets => String.ofList (Text.Utf8.decodeShown octets)

end Settings
end RefTree
