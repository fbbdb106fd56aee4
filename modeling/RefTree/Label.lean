import RefTree.Document.Shown
import RefTree.Fault
import RefTree.Reference
import RefTree.Text.LowerCase

namespace RefTree

/-!
# Labels, badges and styles of rows

A label is the text of a row together with what is shown around it: the name of a property, or
the badges and the hint of a reference.  Badges come in a fixed order that does not depend on the
order of tags, and the visibility of a reference is the first of three tags that it has.
-/

/-- A single-letter marker shown before the label of a reference. -/
structure Badge where
  tag : String
  letter : String
  title : String
  deriving DecidableEq, Repr

/-- All badges, in the order in which they are shown. -/
def allBadges : List Badge :=
  [⟨"static", "S", "Static"⟩, ⟨"constructor", "C", "Constructor"⟩,
    ⟨"destructor", "D", "Destructor"⟩, ⟨"implicit", "I", "Implicit"⟩,
    ⟨"inherited", "I", "Inherited"⟩, ⟨"virtual", "V", "Virtual"⟩, ⟨"global", "G", "Global"⟩]

def badgesFor (tags : List String) : List Badge :=
  allBadges.filter fun badge => tags.contains badge.tag

/-- Who may see a member of a class. -/
inductive Visibility where
  | everyone
  | owner
  | heirs
  deriving DecidableEq, Repr

namespace Visibility

def tag : Visibility -> String
  | .everyone => "public"
  | .owner => "private"
  | .heirs => "protected"

/-- The visibilities in order of precedence. -/
def all : List Visibility :=
  [.everyone, .owner, .heirs]

/-- The marker printed before a row. -/
def marker : Visibility -> String
  | .everyone => "+"
  | .owner => "-"
  | .heirs => "#"

def ofTags? (tags : List String) : Option Visibility :=
  all.find? fun visibility => tags.contains visibility.tag

def ofTag? (tag : String) : Option Visibility :=
  all.find? fun visibility => visibility.tag == tag

def style (visibility : Visibility) : String :=
  "icon-visibility icon-" ++ visibility.tag

end Visibility

def visibilityStyle? (tags : List String) : Option String :=
  (Visibility.ofTags? tags).map Visibility.style

structure Label where
  text : String
  key : Option String := none
  badges : List Badge := []
  hint : Option String := none
  deriving DecidableEq, Repr

namespace Label

/-- The name and the value that the label of a property shows. -/
def pair? (label : Label) : Option (String × String) :=
  label.key.map fun key => (key, label.text)

/-- The letters of the badges, each in brackets. -/
def badgeText (badges : List Badge) : String :=
  String.join (badges.map fun badge => "[" ++ badge.letter ++ "]")

def plain (label : Label) : String :=
  match label.key with
  | some key => key ++ ": " ++ label.text
  | none =>
      if label.badges.isEmpty then label.text
      else badgeText label.badges ++ " " ++ label.text

def property (name : String) (value : String) : Label :=
  { text := value, key := some name }

/-- The hint of a reference that the compiler made up. -/
def implicitHint : String := "label-implicit"

end Label

namespace Reference

/-- The range of a reference, which must name a file. -/
def located (reference : Reference) : Except Fault SourceRange :=
  match reference.range with
  | some range =>
      if range.file = "" then .error (.withoutSourceFile reference.id) else .ok range
  | none => .error (.withoutSourceFile reference.id)

/-- Where a reference stands, as labels show it. -/
def positionText (range : SourceRange) : String :=
  Number.integerText range.line ++ ":" ++ Number.integerText range.column ++ ":"

/-- The label of a reference: its position and its value, with badges. -/
def label (reference : Reference) : Except Fault Label := do
  let range <- reference.located
  return {
    text := positionText range ++ " " ++ reference.displayValue
    badges := badgesFor reference.tags
    hint := if reference.tags.contains "implicit" then some Label.implicitHint else none }

end Reference

/-! ## Style classes -/

/-- Write a hyphen for every blank. -/
def hyphenated (name : String) : String :=
  String.ofList (name.toList.map fun c => if c = ' ' then '-' else c)

def iconClass (name : String) : String :=
  "icon-" ++ hyphenated name

/-- The text after the last occurrence of a character, if there is one. -/
def afterLast? (mark : Char) (chars : List Char) : Option (List Char) :=
  if chars.contains mark then some (chars.reverse.takeWhile (· != mark)).reverse else none

/-- The style class of a file, by the suffix of its name. -/
def fileIconClass (path : String) : String :=
  match afterLast? '.' path.toList with
  | some suffix =>
      if suffix.contains '/' || suffix.isEmpty then "icon icon-file"
      else "icon icon-file icon-" ++ Text.lowerCase (String.ofList suffix)
  | none => "icon icon-file"

def callerStyle : String := "icon icon-Method"

end RefTree
