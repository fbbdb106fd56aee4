import RefTree.Theme
import RefTree.Tree

namespace RefTree

/-!
# Printed trees

A printed tree has one line for each row, indented by its level, and one line for each row that
could not be opened.  Printing is split in two.  `reports` walks the tree and says, in order, which
lines come and which notes are made; a fault outside the tree family ends the walk.  `lineText`
then turns a line into text.  The depth only bounds the walk: a row below it is shown closed.

The values of references may be coloured.  How this is done is not decided here: a style is any
function from a value to the text that is printed for it.
-/

/-- How the values of references are coloured. -/
abbrev Style := String -> String

/-- How a row is marked: it cannot be opened, it is open, or it is closed. -/
inductive Marker where
  | blank
  | opened
  | closed
  deriving DecidableEq, Repr

def Marker.text : Marker -> String
  | .blank => "  "
  | .opened => "▾ "
  | .closed => "▸ "

/-- A line of a printed tree: a row, or the fault met when the row above was opened. -/
inductive Line where
  | row (level : Nat) (marker : Marker) (row : Row)
  | fault (level : Nat) (fault : Fault)

inductive Report where
  | line (line : Line)
  | note (note : Note)
  | stop (fault : Fault)

def failureNote (row : Row) (fault : Fault) : Note :=
  ⟨.printing, "expanding " ++ row.id.getD "None" ++ " failed: " ++ fault.message⟩

/-- The reports of rows at a level, where `remaining` levels below them are still opened. -/
def reports (snapshot : Snapshot) : (remaining level : Nat) -> List Row -> List Report
  | 0, level, rows =>
      rows.map fun row =>
        .line (.row level (if row.expandable then .closed else .blank) row)
  | remaining + 1, level, rows =>
      rows.flatMap fun row =>
        if row.expandable then
          let below :=
            match row.children snapshot with
            | .ok children => reports snapshot remaining (level + 1) children
            | .error fault =>
                if fault.isTreeFault then
                  [.note (failureNote row fault), .line (.fault level fault)]
                else [.stop fault]
          .line (.row level .opened row) :: (row.childrenNotes snapshot).map .note ++ below
        else [.line (.row level .blank row)]

/-- The reports of rows do not depend on the rows beside them. -/
theorem reports_append (snapshot : Snapshot) (remaining level : Nat) (first second : List Row) :
    reports snapshot remaining level (first ++ second) =
      reports snapshot remaining level first ++ reports snapshot remaining level second := by
  cases remaining with
  | zero => simp [reports]
  | succ remaining => simp [reports]

def treeReports (snapshot : Snapshot) (depth : Int) (rows : List Row) : List Report :=
  reports snapshot (depth - 1).toNat 0 rows

/-! ## Lines as text -/

/-- The badges of a label, each in the colour of badges, and a blank after them. -/
def badgesText (theme : Theme) (badges : List Badge) : String :=
  if badges.isEmpty then ""
  else
    String.join (badges.map fun badge => theme.badge ++ "[" ++ badge.letter ++ "]" ++ theme.reset)
      ++ " "

/-- The marker of the visibility of a reference, and a blank after it. -/
def visibilityText (theme : Theme) (reference : Option Reference) : String :=
  match reference.bind fun reference => Visibility.ofTags? reference.tags with
  | some visibility =>
      theme.ofVisibility visibility ++ visibility.marker ++ theme.reset ++ " "
  | none => ""

/-- The text of a reference row.  With a style its value is coloured, for which it must have a
range. -/
def referenceText (row : Row) (style : Option Style) : Except Fault String :=
  match row.reference, style with
  | some reference, some coloured =>
      match reference.range with
      | some range =>
          .ok (Reference.positionText range ++ " " ++ coloured reference.displayValue)
      | none => .error (.withoutPart Document.Value.null.typeWord "line")
  | _, _ => .ok row.label.text

def rowText (theme : Theme) (style : Option Style) (row : Row) : Except Fault String :=
  match row.label.key with
  | some key =>
      .ok (theme.propertyKey ++ key ++ theme.reset ++ ": " ++ theme.propertyValue ++
        row.label.text ++ theme.reset)
  | none =>
      match row.kind with
      | .category | .recursive => .ok (theme.category ++ row.label.text ++ theme.reset)
      | .fileGroup => .ok (theme.fileGroup ++ row.label.text ++ theme.reset)
      | _ => do
          let text <- referenceText row style
          let text := if row.label.hint.isSome then theme.implicit ++ text ++ theme.reset else text
          return visibilityText theme row.reference ++ badgesText theme row.label.badges ++ text

def indentation (level : Nat) : String :=
  String.ofList (List.replicate (2 * level) ' ')

def lineText (theme : Theme) (style : Option Style) : Line -> Except Fault String
  | .row level marker row => do
      let text <- rowText theme style row
      return indentation level ++ theme.treeMarker ++ marker.text ++ theme.reset ++ text
  | .fault level fault =>
      .ok (indentation level ++ "    " ++ theme.error ++ "error: " ++ fault.message ++
        theme.reset)

/-- The lines among reports, as text.  The first fault ends them. -/
def reportLines (theme : Theme) (style : Option Style) :
    List Report -> Except Fault (List String)
  | [] => .ok []
  | .line line :: rest => do
      let text <- lineText theme style line
      let more <- reportLines theme style rest
      return text :: more
  | .note _ :: rest => reportLines theme style rest
  | .stop fault :: _ => .error fault

/-- The notes among reports, up to the first fault. -/
def reportNotes (theme : Theme) (style : Option Style) : List Report -> List Note
  | [] => []
  | .line line :: rest =>
      match lineText theme style line with
      | .ok _ => reportNotes theme style rest
      | .error _ => []
  | .note note :: rest => note :: reportNotes theme style rest
  | .stop _ :: _ => []

def treeLines (snapshot : Snapshot) (theme : Theme) (style : Option Style) (depth : Int)
    (rows : List Row) : Except Fault (List String) :=
  reportLines theme style (treeReports snapshot depth rows)

end RefTree
