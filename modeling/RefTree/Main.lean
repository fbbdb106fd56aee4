import RefTree.Command.Run
import RefTree.Highlight

namespace RefTree
namespace Command

/-!
# The command

The only part of the library that touches the world.  It looks up the settings and the snapshot,
hands them to `run`, and carries out what `run` decided.  The snapshot is looked up before the
run, at the one path that the run will ask for.
-/

/-- What stands at a path.  A file that is there but cannot be read comes with a report. -/
def readEntry (path : String) : IO Entry := do
  try
    let octets <- IO.FS.readBinFile path
    return .file octets.toList
  catch failure =>
    match failure with
    | .noFileOrDirectory .. => return .missing
    | .inappropriateType .. => return .directory
    | .invalidArgument .. => return .tooLong
    | .permissionDenied _ code _ =>
        return .unreadable ("[Errno " ++ code.toNat.repr ++ "] Permission denied: " ++
          Text.quoted path)
    | other => return .unreadable (toString other)

def settingsPath : IO String := do
  match <- IO.getEnv "XDG_CONFIG_HOME" with
  | some directory => return directory ++ "/infotree/config.json"
  | none => return ((<- IO.getEnv "HOME").getD "") ++ "/.config/infotree/config.json"

/-- The home directory of a user in a table with one user in each line, whose name is the first
field of the line and whose directory is the sixth. -/
def homeIn? (table user : String) : Option String :=
  (table.splitOn "\n").findSome? fun line =>
    match line.splitOn ":" with
    | name :: _ :: _ :: _ :: _ :: directory :: _ => if name = user then some directory else none
    | _ => none

/-- The table of the users of this system.  Without one no user is known. -/
def userTable : IO String := do
  try IO.FS.readFile "/etc/passwd"
  catch _ => return ""

/-- What surrounds this process, with nothing known about files yet.  Values are coloured in one
way, whatever style is asked for. -/
def surroundings : IO Environment := do
  return {
    entry := fun _ => .missing
    settings := .ofEntry (<- readEntry (<- settingsPath))
    homes := { own := <- IO.getEnv "HOME", ofUser := homeIn? (<- userTable) }
    style := fun _ => highlighted
    terminal := <- (<- IO.getStdout).isTty }

/-- The path of the snapshot that a run will ask for, if it asks for any. -/
def wantedPath? (environment : Environment) (commandLine : List String) : Option Path :=
  match parse commandLine with
  | .ok arguments =>
      match snapshotPath environment arguments with
      | .ok path => path
      | .error _ => none
  | .error _ => none

/-- Carry out the outcome of a run and give its exit code. -/
def deliver (outcome : Outcome) : IO UInt32 := do
  IO.eprint (outcome.errorText (toString (<- IO.monoMsNow)))
  IO.print outcome.output
  match outcome.ending with
  | .message text => IO.eprintln text
  | .fault fault => IO.eprintln fault.message
  | _ => pure ()
  return ((outcome.ending.code?).getD 1).toUInt32

end Command
end RefTree

/-- Run the command on the arguments of this process. -/
def main (commandLine : List String) : IO UInt32 := do
  let outer <- RefTree.Command.surroundings
  let entry <- match RefTree.Command.wantedPath? outer commandLine with
    | some path => RefTree.Command.readEntry path.text
    | none => pure .missing
  RefTree.Command.deliver
    (RefTree.Command.run { outer with entry := fun _ => entry } commandLine)
