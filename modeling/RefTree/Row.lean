import RefTree.Label

namespace RefTree

/-!
# Rows of the tree

A row is what a host shows: an id, a label, a style and, if it can be opened, a source of
children.  The source is data.  It records what the row was made from, and children are computed
from it and from the snapshot at hand whenever the row is opened.
-/

/-- What a tree is opened on: a symbol or a file.  A host may also pass something else, which is
refused as soon as one of its parts is asked for. -/
inductive Focus where
  | symbol (symbol : Symbol)
  | file (file : FileHandle)
  | other (value : Document.Value)

namespace Focus

/-- The word that messages use for the kind of a focus. -/
def typeWord : Focus -> String
  | .symbol _ => "Symbol"
  | .file _ => "FileHandle"
  | .other value => value.typeWord

def id : Focus -> Except Fault String
  | .symbol chosen => .ok chosen.id
  | .file chosen => .ok chosen.id
  | .other value => .error (.withoutPart value.typeWord "id")

/-- The hash of the full name of a focus, which only a symbol has. -/
def nameHash : Focus -> Except Fault Int
  | .symbol chosen => .ok chosen.nameHash
  | focus => .error (.withoutPart focus.typeWord "mangled_name_hash")

end Focus

/-- A relation between symbols, by the name that is shown and the id that queries use.  The
categories of a snapshot have integers as ids; a host may give an id in any form. -/
structure Category where
  name : String
  id : Document.Value

/-- What a row stands for.  A host may use kinds of its own. -/
inductive RowKind where
  | property
  | category
  | fileGroup
  | caller
  | recursive
  | reference
  | custom (name : String)
  deriving DecidableEq, Repr

namespace RowKind

def name : RowKind -> String
  | .property => "property"
  | .category => "category"
  | .fileGroup => "file_group"
  | .caller => "caller"
  | .recursive => "recursive"
  | .reference => "reference"
  | .custom name => name

def ofName (name : String) : RowKind :=
  ([.property, .category, .fileGroup, .caller, .recursive, .reference].find?
    fun kind : RowKind => kind.name == name).getD (.custom name)

end RowKind

/-- Where the children of a row come from: nowhere; a category among those of symbols or among
those of files; the references of one file, fixed when the row was made; the calls of a caller; or
a host, which gives rows or a fault. -/
inductive Source (row : Type) where
  | none
  | category (focus : Focus) (category : Category)
  | fileCategory (focus : Focus) (category : Category)
  | fileGroup (focus : Focus) (category : Category) (id : String) (members : List Reference)
  | calls (focus : Focus) (category : Category) (caller : Reference)
  | rows (rows : List row)
  | fault (fault : Fault)

structure Row where
  id : Option String
  label : Label
  style : Option String
  expandable : Bool
  kind : RowKind
  reference : Option Reference
  source : Source Row

namespace Row

/-- Decide whether two rows show the same.  Where their children come from is not compared. -/
def sameAs (left right : Row) : Bool :=
  left.id == right.id && left.label == right.label && left.style == right.style &&
    left.expandable == right.expandable && left.kind == right.kind &&
    left.reference == right.reference

/-- Decide whether two lists of rows show the same. -/
def sameRows : List Row -> List Row -> Bool
  | [], [] => true
  | left :: lefts, right :: rights => left.sameAs right && sameRows lefts rights
  | _, _ => false

/-- The row of a reference that cannot be opened. -/
def leaf (reference : Reference) (id : Option String) : Except Fault Row := do
  let label <- reference.label
  return {
    id
    label
    style := visibilityStyle? reference.tags
    expandable := false
    kind := .reference
    reference := some reference
    source := .none }

end Row
end RefTree
