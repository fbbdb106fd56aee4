import RefTree.Fault

namespace RefTree

/-!
# Paths

A path is a root and the components after it.  Repeated separators, components that are a single
dot, and a separator at the end leave no trace; two dots are kept, since what they mean depends on
the file system.  Exactly two leading separators are a root of their own.
-/

/-- The root of a path: none for a relative path, else one separator or two. -/
inductive PathRoot where
  | none
  | single
  | double
  deriving DecidableEq, Repr

def PathRoot.text : PathRoot -> String
  | .none => ""
  | .single => "/"
  | .double => "//"

structure Path where
  root : PathRoot
  parts : List String
  deriving DecidableEq, Repr

namespace Path

def splitParts : List Char -> List (List Char)
  | [] => [[]]
  | c :: rest =>
      if c = '/' then [] :: splitParts rest
      else
        match splitParts rest with
        | part :: others => (c :: part) :: others
        | [] => [[c]]

/-- The root that a text starts with.  Three separators or more count as one. -/
def rootOf : List Char -> PathRoot
  | '/' :: '/' :: '/' :: _ => .single
  | '/' :: '/' :: _ => .double
  | '/' :: _ => .single
  | _ => .none

def ofText (text : String) : Path :=
  { root := rootOf text.toList
    parts := ((splitParts text.toList).map String.ofList).filter fun part =>
      part != "" && part != "." }

/-- The text of a path.  The path with neither root nor components is a single dot. -/
def text (path : Path) : String :=
  if path.root = .none && path.parts.isEmpty then "."
  else path.root.text ++ String.intercalate "/" path.parts

/-- The last component, or nothing if there is none. -/
def name (path : Path) : String :=
  path.parts.getLast?.getD ""

/-- The user in whose home directory a path begins.  The name follows a tilde at the start of the
path, and an empty name stands for oneself. -/
def user? (path : Path) : Option String :=
  match path.root, path.parts with
  | .none, first :: _ =>
      match first.toList with
      | '~' :: name => some (String.ofList name)
      | _ => none
  | _, _ => none

end Path

/-- The home directories that the system knows: one's own, and those of users by their names. -/
structure Homes where
  own : Option String
  ofUser : String -> Option String

namespace Homes

def directory? (homes : Homes) (user : String) : Option String :=
  if user = "" then homes.own else homes.ofUser user

/-- The path of the home directory of a user.  A directory of separators only is the root, and one
that itself begins with a tilde is of no use.  A name that holds a null character could not even be
looked up. -/
def find (homes : Homes) (user : String) : Except Fault Path :=
  if user.toList.contains (Char.ofNat 0) then .error .nullInPath
  else
    match homes.directory? user with
    | some directory =>
        if directory.toList.all (· == '/') then .ok { root := .single, parts := [] }
        else if directory.toList.head? = some '~' then .error .noHomeDirectory
        else .ok (Path.ofText directory)
    | none => .error .noHomeDirectory

end Homes

namespace Path

/-- Replace a first component that stands for a home directory by that directory. -/
def expandHome (path : Path) (homes : Homes) : Except Fault Path :=
  match path.user? with
  | some user => do
      let home <- homes.find user
      return { home with parts := home.parts ++ path.parts.tail }
  | none => .ok path

end Path
end RefTree
