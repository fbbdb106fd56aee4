import RefTree.Listing
import RefTree.Registry

namespace RefTree

open Document

/-!
# Sessions of a host

A host works on one snapshot, which may change while it does.  It opens trees, keeps every row it
was given, and opens, compares or prints those rows later.  A session is the state of such a host
and an action is one thing it does.  Rows are kept by number, in the order in which they were
given; a row number that was never given out is answered as such, or left out of a list.
-/

/-- What provides a tree: the snapshot of the session, or fixed rows that answer for any focus. -/
inductive Provider where
  | snapshot
  | rows (rows : List Row)

/-- The state of a host. -/
structure Session where
  snapshot : Snapshot
  rows : List Row := []
  registry : Registry Provider := {}

/-- How an action names a reference: by a payload to be read, or directly. -/
inductive ReferenceSpec where
  | payload (value : Value)
  | given (reference : Reference)

def ReferenceSpec.resolve : ReferenceSpec -> Except Fault Reference
  | .payload value => Reference.decode value
  | .given reference => .ok reference

/-- How an action names a focus: by the id of a symbol or a file, or directly. -/
inductive FocusSpec where
  | symbolId (id : Value)
  | fileId (id : Value)
  | given (focus : Focus)

def FocusSpec.resolve (snapshot : Snapshot) : FocusSpec -> Except Fault Focus
  | .symbolId id => return .symbol (<- snapshot.symbol id)
  | .fileId id => return .file (<- snapshot.file id.plain)
  | .given focus => .ok focus

/-- Where the children of a row made by the host come from. -/
inductive HostSource where
  | none
  | rows (numbers : List Nat)
  | fault (kind : FaultKind) (message : String)

/-- A query that leaves the session as it is. -/
inductive Query where
  | symbol (id : Value)
  | file (id : Value)
  | properties (symbol : Value)
  | categories (symbol : Value)
  | references (symbol category : Value)
  | fileCategories (file : Value)
  | fileReferences (file category : Value)

/-- An action whose result is rows, which the session then keeps. -/
inductive Opening where
  | focus (focus : FocusSpec)
  | category (focus : FocusSpec) (category : Category)
  | fileCategory (focus : FocusSpec) (category : Category)
  | callChain (focus : FocusSpec) (category : Category) (caller : ReferenceSpec)
  | provider (name : String) (focus : FocusSpec)
  | hostRow (id : Option String) (label : Label) (style : Option String) (expandable : Bool)
      (kind : RowKind) (reference : Option ReferenceSpec) (source : HostSource)

/-- One action of a host. -/
inductive Action where
  | query (query : Query)
  | opening (opening : Opening)
  | expand (row : Nat)
  | unfold (rows : List Nat) (depth : Int)
  | compare (left right : List Nat)
  | lines (rows : List Nat) (depth : Int) (theme : Theme) (style : Option Style)
  | rowText (row : Nat) (theme : Theme) (style : Option Style)
  | set (path : List Step) (value : Value)
  | erase (path : List Step)
  | registerTree (name : String)
  | registerRows (name : String) (rows : List Nat)
  | providerNames

/-- The answer to an action.  Rows come with the number of the first. -/
inductive Answer where
  | symbol (symbol : Symbol)
  | file (file : FileHandle)
  | properties (properties : List (String × String))
  | categories (categories : List (String × Int))
  | references (references : List Reference)
  | rows (first : Nat) (rows : List Row)
  | trees (trees : List Tree)
  | same (same : Bool)
  | lines (lines : List String)
  | text (text : String)
  | changed
  | names (names : List String)
  | registered (names : List String)
  | noSuchRow
  | fault (fault : Fault)

/-- An answer, or the fault that took its place. -/
def Answer.ofExcept {result : Type} (answer : result -> Answer) : Except Fault result -> Answer
  | .ok value => answer value
  | .error cause => .fault cause

def Query.answer (snapshot : Snapshot) : Query -> Answer
  | .symbol id => .ofExcept .symbol (snapshot.symbol id)
  | .file id => .ofExcept .file (snapshot.file id.plain)
  | .properties id => .ofExcept .properties (snapshot.properties id.plain)
  | .categories id => .ofExcept .categories (snapshot.categories id.plain)
  | .references id category => .ofExcept .references (snapshot.references id.plain category)
  | .fileCategories id => .ofExcept .categories (snapshot.fileCategories id.plain)
  | .fileReferences id category =>
      .ofExcept .references (snapshot.fileReferences id.plain category)

namespace Session

/-- The rows with some numbers, without those that were never given out. -/
def pick (session : Session) (numbers : List Nat) : List Row :=
  numbers.filterMap fun number => session.rows[number]?

/-- Change the snapshot.  A change that does not leave an object is not made. -/
def change (session : Session) (edit : Value -> Value) : Session :=
  match edit session.snapshot.document with
  | .object members => { session with snapshot := ⟨members⟩ }
  | _ => session

/-- The source of the children of a row made by the host. -/
def hostSource (session : Session) : HostSource -> Source Row
  | .none => .none
  | .rows numbers => .rows (session.pick numbers)
  | .fault kind message => .fault (.hosted kind message)

def provided (session : Session) (focus : Focus) : Provider -> Except Fault (List Row)
  | .snapshot => focusRows session.snapshot focus
  | .rows rows => .ok rows

def opened (session : Session) : Opening -> Except Fault (List Row)
  | .focus focus => do
      focusRows session.snapshot (<- focus.resolve session.snapshot)
  | .category focus category => do
      categoryRows session.snapshot (<- focus.resolve session.snapshot) category
  | .fileCategory focus category => do
      fileCategoryRows session.snapshot (<- focus.resolve session.snapshot) category
  | .callChain focus category caller => do
      let focus <- focus.resolve session.snapshot
      callChainRows session.snapshot focus category (<- caller.resolve)
  | .provider name focus => do
      let focus <- focus.resolve session.snapshot
      let provider <- session.registry.find name
      session.provided focus provider
  | .hostRow id label style expandable kind reference source => do
      let reference <- reference.mapM ReferenceSpec.resolve
      let source := session.hostSource source
      return [{ id, label, style, expandable, kind, reference, source }]

/-- Keep rows, if there are any, and answer with them. -/
def keep (session : Session) : Except Fault (List Row) -> Session × Answer
  | .ok rows =>
      ({ session with rows := session.rows ++ rows }, .rows session.rows.length rows)
  | .error fault => (session, .fault fault)

/-- Register a provider and answer with the names that are then registered. -/
def registerProvider (session : Session) (name : String) (provider : Provider) : Session :=
  { session with registry := session.registry.register name provider }

def perform (session : Session) : Action -> Session × Answer
  | .query query => (session, query.answer session.snapshot)
  | .opening opening => session.keep (session.opened opening)
  | .expand number =>
      match session.rows[number]? with
      | some row => session.keep (row.children session.snapshot)
      | none => (session, .noSuchRow)
  | .unfold numbers depth =>
      (session, .ofExcept .trees
        (Tree.unfoldRows session.snapshot depth (session.pick numbers)))
  | .compare left right =>
      (session, .same (Row.sameRows (session.pick left) (session.pick right)))
  | .lines numbers depth theme style =>
      (session, .ofExcept .lines
        (treeLines session.snapshot theme style depth (session.pick numbers)))
  | .rowText number theme style =>
      match session.rows[number]? with
      | some row => (session, .ofExcept .text (RefTree.rowText theme style row))
      | none => (session, .noSuchRow)
  | .set path value => (session.change (Value.setAt path value), .changed)
  | .erase path => (session.change (Value.eraseAt path), .changed)
  | .registerTree name =>
      let session := session.registerProvider name .snapshot
      (session, .names session.registry.names)
  | .registerRows name numbers =>
      let session := session.registerProvider name (.rows (session.pick numbers))
      (session, .registered session.registry.names)
  | .providerNames => (session, .names session.registry.names)

def run (session : Session) : List Action -> Session × List Answer
  | [] => (session, [])
  | action :: rest =>
      let (next, answer) := session.perform action
      let (final, answers) := next.run rest
      (final, answer :: answers)

end Session
end RefTree
