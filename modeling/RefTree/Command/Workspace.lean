import RefTree.Path
import RefTree.Snapshot.Load
import RefTree.Text.Utf8

namespace RefTree
namespace Command

/-!
# File trees held in memory

A workspace is a working directory whose files are listed by their components.  Every directory
above a listed file exists.  Outside the working directory only the directories above it and the
root are known.  Paths are limited in length, both as a whole and in each component, and what is
limited is the number of octets.
-/

/-- The greatest number of octets in a component of a path. -/
def maxComponentOctets : Nat := 255

def maxPathOctets : Nat := 4095

/-- The number of octets in a text. -/
def octetCount (text : String) : Nat :=
  (Text.Utf8.encode text.toList).length

structure Workspace where
  files : List (List String × Entry)

namespace Workspace

/-- What stands at components below the working directory. -/
def entryAt (workspace : Workspace) (parts : List String) : Entry :=
  if parts.isEmpty then .directory
  else
    match workspace.files.find? fun file => file.1 == parts with
    | some file => file.2
    | none =>
        if workspace.files.any fun file => parts.isPrefixOf file.1 then .directory else .missing

/-- What stands at the end of components that start outside the working directory.  Only going up
leads to something that is known. -/
def entryOutside : List String -> Entry
  | [] => .directory
  | part :: rest =>
      if part = ".." then entryOutside rest
      else if maxComponentOctets < octetCount part then .tooLong
      else .missing

/-- Follow components from a directory below the working directory. -/
def follow (workspace : Workspace) (here : List String) : List String -> Entry
  | [] => workspace.entryAt here
  | part :: rest =>
      if workspace.entryAt here = .directory then
        if part = ".." then
          if here.isEmpty then entryOutside rest else follow workspace here.dropLast rest
        else if maxComponentOctets < octetCount part then .tooLong
        else follow workspace (here ++ [part]) rest
      else .missing

/-- What stands at a path.  Nothing stands at a path that holds a null character. -/
def entry (workspace : Workspace) (path : Path) : Entry :=
  if path.text.toList.contains (Char.ofNat 0) then .missing
  else if maxPathOctets < octetCount path.text then .tooLong
  else if path.root = .none then workspace.follow [] path.parts
  else entryOutside path.parts

end Workspace
end Command
end RefTree
