import RefTree.Document.Shown
import RefTree.Label
import RefTree.Text.Blank
import RefTree.Text.LowerCase

namespace RefTree

open Document

/-!
# Palettes

A theme assigns an escape sequence to every part of a printed row.  Two themes can be selected by
name; the third has no sequences at all and serves output without colour.  A name that is not
known selects the default theme.
-/

/-- The escape sequences of printed trees. -/
structure Theme where
  name : String
  reset : String
  treeMarker : String
  propertyKey : String
  propertyValue : String
  category : String
  fileGroup : String
  badge : String
  implicit : String
  visibilityPublic : String
  visibilityPrivate : String
  visibilityProtected : String
  error : String
  deriving DecidableEq, Repr

namespace Theme

/-- The escape sequence with some parameters. -/
def sequence (parameters : String) : String :=
  "\x1b[" ++ parameters ++ "m"

/-- The theme used unless another one is chosen. -/
def standard : Theme where
  name := "default"
  reset := sequence "0"
  treeMarker := sequence "38;5;44"
  propertyKey := sequence "38;5;109"
  propertyValue := sequence "38;5;252"
  category := sequence "1;34"
  fileGroup := sequence "38;5;110"
  badge := sequence "38;5;229"
  implicit := sequence "2;38;5;250"
  visibilityPublic := sequence "38;5;42"
  visibilityPrivate := sequence "38;5;203"
  visibilityProtected := sequence "38;5;214"
  error := sequence "1;31"

def ocean : Theme where
  name := "ocean"
  reset := sequence "0"
  treeMarker := sequence "38;5;39"
  propertyKey := sequence "38;5;73"
  propertyValue := sequence "38;5;153"
  category := sequence "1;38;5;45"
  fileGroup := sequence "38;5;117"
  badge := sequence "38;5;153"
  implicit := sequence "2;38;5;110"
  visibilityPublic := sequence "38;5;84"
  visibilityPrivate := sequence "38;5;210"
  visibilityProtected := sequence "38;5;215"
  error := sequence "1;38;5;203"

def plain : Theme where
  name := "plain"
  reset := ""
  treeMarker := ""
  propertyKey := ""
  propertyValue := ""
  category := ""
  fileGroup := ""
  badge := ""
  implicit := ""
  visibilityPublic := ""
  visibilityPrivate := ""
  visibilityProtected := ""
  error := ""

/-- The themes that can be selected, in the order in which they are listed. -/
def selectable : List Theme :=
  [standard, ocean]

def names : List String :=
  selectable.map Theme.name

/-- The theme with exactly the given name, among all three. -/
def named? (name : String) : Option Theme :=
  [standard, ocean, plain].find? fun theme => theme.name == name

/-- The theme that a requested name selects.  Blanks around the name and the case of its letters
do not matter, and an empty request or an unknown name selects the standard theme. -/
def select (requested : Value) : Theme :=
  if requested.isFalsy then standard
  else
    let wanted := Text.lowerCase (Text.trim requested.plain)
    (selectable.find? fun theme => theme.name == wanted).getD standard

/-- The theme for a requested name and a choice of colour. -/
def resolve (requested : Value) (noColor : Bool) : Theme :=
  if noColor then plain else select requested

def ofVisibility (theme : Theme) : Visibility -> String
  | .everyone => theme.visibilityPublic
  | .owner => theme.visibilityPrivate
  | .heirs => theme.visibilityProtected

end Theme
end RefTree
