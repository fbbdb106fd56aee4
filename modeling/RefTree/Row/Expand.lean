import RefTree.Note
import RefTree.Row
import RefTree.Snapshot

namespace RefTree

open Document

/-!
# Opening rows

Callers and usages are grouped by file, in the order in which the files are first met; all other
categories list their references one by one.  Below a caller comes the same category again, opened
on the caller, and then the calls by which it reaches the symbol.  Nothing bounds how deep callers
of callers can be opened: each step is made on demand and looks at the current snapshot.
-/

/-- The category of the places that call a symbol. -/
def callerName : String := "Caller"

/-- The category of the places that use a symbol. -/
def usageName : String := "Usage"

/-- The category of the calls that a symbol makes. -/
def callsName : String := "This calls"

namespace Category

/-- Decide whether the references of a category are grouped by file. -/
def isGrouped (category : Category) : Bool :=
  category.name == callerName || category.name == usageName

/-- The label of a category row, and of the rows that repeat it. -/
def label (category : Category) : Label :=
  { text := category.name }

/-- The style of a category row, and of the rows that repeat it. -/
def style (category : Category) : String :=
  iconClass category.name

end Category

/-! ## Grouping by file -/

/-- The references of one file. -/
structure FileGroup where
  file : String
  members : List Reference
  deriving DecidableEq, Repr

/-- Add a reference to the group of its file, or make a new group after the others. -/
def addToGroups (file : String) (reference : Reference) : List FileGroup -> List FileGroup
  | [] => [⟨file, [reference]⟩]
  | group :: rest =>
      if group.file = file then ⟨file, group.members ++ [reference]⟩ :: rest
      else group :: addToGroups file reference rest

/-- Add references to groups, in order.  A reference without a file makes the whole grouping
fail. -/
def groupInto (groups : List FileGroup) : List Reference -> Except Fault (List FileGroup)
  | [] => .ok groups
  | reference :: rest =>
      match reference.located with
      | .ok range => groupInto (addToGroups range.file reference groups) rest
      | .error fault => .error fault

def groupByFile (references : List Reference) : Except Fault (List FileGroup) :=
  groupInto [] references

/-! ## Children of each source -/

def fileGroupRow (snapshot : Snapshot) (focus : Focus) (category : Category)
    (group : FileGroup) : Except Fault Row := do
  let file <- snapshot.file group.file
  let owner <- focus.id
  let id := owner ++ "-" ++ category.id.plain ++ "-" ++ group.file
  return {
    id := some id
    label := { text := file.name ++ " (" ++ group.members.length.repr ++ ")" }
    style := some (fileIconClass file.path)
    expandable := true
    kind := .fileGroup
    reference := none
    source := .fileGroup focus category id group.members }

/-- The rows of a category, looked up among those of symbols. -/
def categoryRows (snapshot : Snapshot) (focus : Focus) (category : Category) :
    Except Fault (List Row) := do
  let references <- snapshot.references (<- focus.id) category.id
  if category.isGrouped then
    let groups <- groupByFile references
    groups.mapM (fileGroupRow snapshot focus category)
  else references.mapM fun reference => Row.leaf reference none

/-- The rows of a category, looked up among those of files.  They are never grouped. -/
def fileCategoryRows (snapshot : Snapshot) (focus : Focus) (category : Category) :
    Except Fault (List Row) := do
  let references <- snapshot.fileReferences (<- focus.id) category.id
  references.mapM fun reference => Row.leaf reference none

def callerRow (focus : Focus) (category : Category) (caller : Reference) :
    Except Fault Row := do
  let label <- caller.label
  return {
    id := some caller.id
    label
    style := some callerStyle
    expandable := true
    kind := .caller
    reference := some caller
    source := .calls focus category caller }

/-- The rows of a file group.  They depend on nothing but what the group row holds. -/
def fileGroupRows (focus : Focus) (category : Category) (id : String)
    (members : List Reference) : Except Fault (List Row) :=
  if category.name = callerName then members.mapM (callerRow focus category)
  else members.mapM fun reference => Row.leaf reference (some (id ++ "-" ++ reference.id))

/-- The row that repeats a category for a caller. -/
def recursiveRow (category : Category) (caller : Reference) : Row where
  id := some ("Caller-" ++ caller.id)
  label := category.label
  style := some category.style
  expandable := true
  kind := .recursive
  reference := some caller
  source := .category (.symbol (Symbol.ofReference caller)) category

/-- The calls that a caller makes, and nothing if it has no category for them. -/
def callsOf (snapshot : Snapshot) (caller : Reference) :
    Except Fault (Option (List Reference)) := do
  let known <- snapshot.categories caller.id
  match known.find? fun entry => entry.1 == callsName with
  | none => return none
  | some entry => return some (<- snapshot.references caller.id (.int entry.2))

/-- The calls whose target is exactly the focus, told by the hash of its full name.  The hash is
asked for only if there are calls to compare it with. -/
def callsTo (focus : Focus) (calls : List Reference) : Except Fault (List Reference) :=
  if calls.isEmpty then .ok []
  else do
    let hash <- focus.nameHash
    return calls.filter fun call => call.nameHash == hash

@[simp]
theorem callsTo_symbol (symbol : Symbol) (calls : List Reference) :
    callsTo (.symbol symbol) calls =
      .ok (calls.filter fun call => call.nameHash == symbol.nameHash) := by
  cases calls with
  | nil => rfl
  | cons call rest => rfl

/-- The rows of the calls by which a caller reaches a focus.  The calls are reported under the id
of the focus, so it must have one. -/
def callSiteRows (snapshot : Snapshot) (focus : Focus) (caller : Reference) :
    Except Fault (List Row) := do
  match <- callsOf snapshot caller with
  | none => return []
  | some calls =>
      let found <- callsTo focus calls
      let _ <- focus.id
      found.mapM fun call => Row.leaf call (some ("call-" ++ caller.id ++ "-" ++ call.id))

/-- The rows below a caller: the category again, and then its calls to the focus. -/
def callChainRows (snapshot : Snapshot) (focus : Focus) (category : Category)
    (caller : Reference) : Except Fault (List Row) := do
  let sites <- callSiteRows snapshot focus caller
  return recursiveRow category caller :: sites

/-- The children of a row.  A row that cannot be opened has none. -/
def Row.children (snapshot : Snapshot) (row : Row) : Except Fault (List Row) :=
  if row.expandable then
    match row.source with
    | .none => .ok []
    | .category focus category => categoryRows snapshot focus category
    | .fileCategory focus category => fileCategoryRows snapshot focus category
    | .fileGroup focus category id members => fileGroupRows focus category id members
    | .calls focus category caller => callChainRows snapshot focus category caller
    | .rows rows => .ok rows
    | .fault fault => .error fault
  else .ok []

/-! ## Notes -/

def referencesNote (what : String) (category : Category) (owner : String)
    (references : List Reference) : Note :=
  ⟨.grouping, what ++ " " ++ Text.quoted category.name ++ " of " ++ owner ++ ": " ++
    references.length.repr ++ " references"⟩

/-- The note made once the references of a category of a symbol have been found. -/
def categoryNote (snapshot : Snapshot) (focus : Focus) (category : Category) :
    Except Fault Note := do
  let owner <- focus.id
  return referencesNote "category" category owner (<- snapshot.references owner category.id)

/-- The note made once the references of a category of a file have been found. -/
def fileCategoryNote (snapshot : Snapshot) (focus : Focus) (category : Category) :
    Except Fault Note := do
  let owner <- focus.id
  return referencesNote "file category" category owner
    (<- snapshot.fileReferences owner category.id)

/-- The note of the calls that were looked through, if there are any to look through. -/
def callsNote (snapshot : Snapshot) (focus : Focus) (caller : Reference) :
    Except Fault (Option Note) := do
  match <- callsOf snapshot caller with
  | none => return none
  | some calls =>
      let found <- callsTo focus calls
      let owner <- focus.id
      return some ⟨.callChain, "caller " ++ caller.id ++ ": " ++ found.length.repr ++ " of " ++
        calls.length.repr ++ " calls target " ++ owner⟩

/-- The notes made while a row is opened.  A note is made when its query has succeeded, even if
what follows fails. -/
def Row.childrenNotes (snapshot : Snapshot) (row : Row) : List Note :=
  if row.expandable then
    match row.source with
    | .category focus category => (categoryNote snapshot focus category).toOption.toList
    | .fileCategory focus category => (fileCategoryNote snapshot focus category).toOption.toList
    | .calls focus _ caller => (callsNote snapshot focus caller).toOption.join.toList
    | _ => []
  else []

end RefTree
