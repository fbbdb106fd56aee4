import RefTree.Command.Arguments
import RefTree.Listing
import RefTree.Settings
import RefTree.Snapshot.Load

namespace RefTree
namespace Command

open Document

/-!
# Runs of the command

A run reads its arguments, finds the snapshot, opens the tree of the focus and prints it.  It is a
function of the command line and of what surrounds it.  Nothing is printed unless the whole tree
could be: output is either complete or empty.
-/

def programName : String := "infotree"

/-- How the command is used, in short. -/
def usageText : String :=
  "usage: infotree [-h] (--symbol ID | --file ID) [--depth DEPTH] [--theme THEME]\n" ++
  "                [--style STYLE] [--no-color] [--verbose]\n" ++
  "                [snapshot]\n"

/-- How the command is used, in full. -/
def helpText : String :=
  usageText ++ "\n" ++
  "Print the info tree (properties and references) of a symbol or file.\n" ++
  "\n" ++
  "positional arguments:\n" ++
  "  snapshot       Path to a JSON index snapshot. Defaults to the configured\n" ++
  "                 snapshot.\n" ++
  "\n" ++
  "options:\n" ++
  "  -h, --help     show this help message and exit\n" ++
  "  --symbol ID    Symbol id to show.\n" ++
  "  --file ID      File id to show.\n" ++
  "  --depth DEPTH  Levels to print, 1 = top-level rows only (default: configured\n" ++
  "                 depth).\n" ++
  "  --theme THEME  UI theme name (default, ocean).\n" ++
  "  --style STYLE  Pygments style name for reference values.\n" ++
  "  --no-color     Disable color output even on TTY.\n" ++
  "  --verbose      Log backend queries to stderr.\n"

/-- What surrounds a run: the files, the settings, the home directories, the styles by their names,
and whether the output goes to a terminal. -/
structure Environment where
  entry : Path -> Entry
  settings : Settings.Store
  homes : Homes
  style : String -> Style
  terminal : Bool

/-- How a run ends: with its output, with a message, with a report on how it was called, or by a
fault that it does not handle. -/
inductive Ending where
  | success
  | message (text : String)
  | usage (fault : UsageFault)
  | fault (fault : Fault)
  deriving DecidableEq, Repr

/-- The result of a run: its ending, its output, and the notes that were made on the way. -/
structure Outcome where
  ending : Ending
  output : String := ""
  notes : List Note := []
  deriving DecidableEq, Repr

/-- The exit code of a run, if it ends in an orderly way. -/
def Ending.code? : Ending -> Option Nat
  | .success => some 0
  | .message _ => some 1
  | .usage _ => some 2
  | .fault _ => none

/-- The text of a run that is not output: its notes, or the report on how it was called. -/
def Outcome.errorText (outcome : Outcome) (stamp : String) : String :=
  match outcome.ending with
  | .usage fault => usageText ++ programName ++ ": error: " ++ fault.message ++ "\n"
  | _ => String.join (outcome.notes.map (Note.line stamp))

/-- The path of the snapshot: the one given, else the one in the settings. -/
def snapshotPath (environment : Environment) (arguments : Arguments) :
    Except Fault (Option Path) :=
  match arguments.snapshot with
  | some text => .ok (some (Path.ofText text))
  | none => Settings.loadSnapshotPath environment.homes environment.settings

/-- The focus of a run.  One of the two options is always given. -/
def focusOf (snapshot : Snapshot) (arguments : Arguments) : Except Fault Focus :=
  match arguments.symbol, arguments.file with
  | some id, _ => return .symbol (<- snapshot.symbol id)
  | none, some id => return .file (<- snapshot.file id.plain)
  | none, none => .error (.unsupportedFocus Value.null.typeWord)

structure Appearance where
  depth : DepthArgument
  theme : Theme
  style : Option Style

/-- An argument that is missing or empty gives way to a setting. -/
def givenOr (argument : Option Value) (setting : Except Fault Value) : Except Fault Value :=
  match argument with
  | some value => if value.isFalsy then setting else .ok value
  | none => setting

/-- How the tree of a run is printed, by its arguments and else by the settings. -/
def appearance (environment : Environment) (arguments : Arguments) : Except Fault Appearance := do
  let color := !arguments.noColor && environment.terminal
  let depth <- match arguments.depth with
    | some depth => .ok depth
    | none => (Settings.loadDepth environment.settings).map .levels
  let theme <- givenOr arguments.theme
    ((Settings.loadTheme environment.settings).map fun name =>
      name.elim Value.null Value.text)
  let style <-
    if color then
      (givenOr arguments.style
        ((Settings.loadStyle environment.settings).map Value.text)).map fun value =>
          some (environment.style value.plain)
    else .ok none
  return { depth, theme := Theme.resolve theme (!color), style }

/-- The reports of a tree.  An empty depth cannot be compared with the level of a row that could
be opened. -/
def depthReports (snapshot : Snapshot) (rows : List Row) : DepthArgument -> List Report
  | .levels depth => treeReports snapshot depth rows
  | .empty =>
      rows.flatMap fun row =>
        if row.expandable then [.stop (.notComparable "int" "list")]
        else [.line (.row 0 .blank row)]

/-- The end of a run that met a fault.  A fault of the tree is a message. -/
def Ending.ofFault (fault : Fault) : Ending :=
  if fault.isTreeFault then .message (programName ++ ": " ++ fault.message) else .fault fault

/-- Print lines, each ended by a line feed. -/
def printed (lines : List String) : String :=
  String.join (lines.map (· ++ "\n"))

/-- Print the tree of the focus in a snapshot that was loaded. -/
def runSnapshot (environment : Environment) (arguments : Arguments) (snapshot : Snapshot) :
    Outcome :=
  match focusOf snapshot arguments with
  | .error fault => { ending := .ofFault fault }
  | .ok focus =>
      match focusRows snapshot focus with
      | .error fault => { ending := .ofFault fault }
      | .ok rows =>
          let built := focusNotes snapshot focus
          match appearance environment arguments with
          | .error fault => { ending := .ofFault fault, notes := built }
          | .ok look =>
              let reports := depthReports snapshot rows look.depth
              let notes := built ++ reportNotes look.theme look.style reports
              match reportLines look.theme look.style reports with
              | .error fault => { ending := .ofFault fault, notes }
              | .ok lines => { ending := .success, output := printed lines, notes }

/-- Load the snapshot at a path that exists, and print the tree of the focus. -/
def runPath (environment : Environment) (arguments : Arguments) (path : Path) : Outcome :=
  let entry := environment.entry path
  let loaded := Snapshot.loadNotes path entry
  match Snapshot.load path entry with
  | .error fault => { ending := .ofFault fault, notes := loaded }
  | .ok snapshot =>
      let outcome := runSnapshot environment arguments snapshot
      { outcome with notes := loaded ++ outcome.notes }

def runArguments (environment : Environment) (arguments : Arguments) : Outcome :=
  let outcome : Outcome :=
    match snapshotPath environment arguments with
    | .error fault => { ending := .fault fault }
    | .ok none => { ending := .message "No snapshot given and none configured." }
    | .ok (some path) =>
        match environment.entry path with
        | .missing => { ending := .message ("Snapshot not found: " ++ path.text) }
        | .tooLong => { ending := .fault (.pathTooLong path.text) }
        | _ => runPath environment arguments path
  if arguments.verbose then outcome else { outcome with notes := [] }

def run (environment : Environment) (commandLine : List String) : Outcome :=
  match parse commandLine with
  | .error .help => { ending := .success, output := helpText }
  | .error (.usage fault) => { ending := .usage fault }
  | .ok arguments => runArguments environment arguments

end Command
end RefTree
