import RefTree.Document.Value
import RefTree.Number.Integer
import RefTree.Text.DecimalDigit
import RefTree.Text.Quoted

namespace RefTree
namespace Command

open Document

/-!
# Command-line arguments

Arguments are read in two passes.  The first decides for each argument by itself whether it is a
value, an option, or the separator after which everything is a value; an option may be written by
any start of its name that fits no other option.  The second goes from left to right: options take
their values, the first free value is the snapshot, and what nobody takes is reported at the end.
-/

inductive Flag where
  | help
  | symbol
  | file
  | depth
  | theme
  | style
  | noColor
  | verbose
  deriving DecidableEq, Repr

namespace Flag

def takesValue : Flag -> Bool
  | .help | .noColor | .verbose => false
  | _ => true

def longName : Flag -> String
  | .help => "--help"
  | .symbol => "--symbol"
  | .file => "--file"
  | .depth => "--depth"
  | .theme => "--theme"
  | .style => "--style"
  | .noColor => "--no-color"
  | .verbose => "--verbose"

/-- The name of an option in messages, which lists all of its names. -/
def title : Flag -> String
  | .help => "-h/--help"
  | flag => flag.longName

/-- The options in the order in which they are listed. -/
def all : List Flag :=
  [.help, .symbol, .file, .depth, .theme, .style, .noColor, .verbose]

end Flag

inductive DepthFault where
  | notInteger (value : String)
  | belowOne
  deriving DecidableEq, Repr

def DepthFault.message : DepthFault -> String
  | .notInteger value => "invalid integer value: " ++ Text.quoted value
  | .belowOne => "value must be >= 1"

/-- Read a depth, which is an integer of at least one. -/
def depthOfText (text : String) : Except DepthFault Int :=
  match Number.integer? text with
  | none => .error (.notInteger text)
  | some depth => if depth ≤ 0 then .error .belowOne else .ok depth

inductive UsageFault where
  | ambiguous (argument : String) (candidates : List String)
  | expectedValue (flag : Flag)
  | ignoredValue (flag : Flag) (value : String)
  | notAllowedWith (flag other : Flag)
  | invalidDepth (fault : DepthFault)
  | focusRequired
  | unrecognized (arguments : List String)
  deriving DecidableEq, Repr

/-- The words for what is wrong with a command line. -/
def UsageFault.message : UsageFault -> String
  | .ambiguous argument candidates =>
      "ambiguous option: " ++ argument ++ " could match " ++ String.intercalate ", " candidates
  | .expectedValue flag => "argument " ++ flag.title ++ ": expected one argument"
  | .ignoredValue flag value =>
      "argument " ++ flag.title ++ ": ignored explicit argument " ++ Text.quoted value
  | .notAllowedWith flag other =>
      "argument " ++ flag.title ++ ": not allowed with argument " ++ other.title
  | .invalidDepth fault => "argument " ++ Flag.depth.title ++ ": " ++ fault.message
  | .focusRequired => "one of the arguments --symbol --file is required"
  | .unrecognized arguments => "unrecognized arguments: " ++ String.intercalate " " arguments

/-! ## First pass: what each argument is -/

/-- An argument after the first pass.  The short name of the help option may have more written
directly after it. -/
inductive Word where
  | value (text : String)
  | separator
  | option (flag : Flag) (explicit : Option String)
  | shortHelp (tail : String)
  | unknown (text : String)
  deriving DecidableEq, Repr

def splitEquals (chars : List Char) : String × Option String :=
  let name := chars.takeWhile (· != '=')
  match chars.drop name.length with
  | [] => (String.ofList name, none)
  | _ :: rest => (String.ofList name, some (String.ofList rest))

/-- Decide whether an argument is a negative number: digits, or digits around a point with at
least one after it.  A line feed at the end is not looked at. -/
def isNegativeNumber (chars : List Char) : Bool :=
  let chars := if chars.getLast? = some '\n' then chars.dropLast else chars
  match chars with
  | '-' :: rest =>
      let whole := rest.takeWhile Text.isDecimalDigit
      match rest.drop whole.length with
      | [] => !whole.isEmpty
      | '.' :: fraction => !fraction.isEmpty && fraction.all Text.isDecimalDigit
      | _ => false
  | _ => false

/-- The options whose long name starts with a text. -/
def candidates (start : String) : List Flag :=
  Flag.all.filter fun flag => start.toList.isPrefixOf flag.longName.toList

/-- An argument that starts with a hyphen and is no known option. -/
def unknownWord (argument : String) : Word :=
  if isNegativeNumber argument.toList || argument.toList.contains ' ' then .value argument
  else .unknown argument

/-- What an argument is, before any separator. -/
def classify (argument : String) : Except UsageFault Word :=
  match argument.toList with
  | '-' :: '-' :: rest =>
      let (name, explicit) := splitEquals ('-' :: '-' :: rest)
      match Flag.all.find? fun flag => flag.longName == name with
      | some flag => .ok (.option flag explicit)
      | none =>
          match candidates name with
          | [] => .ok (unknownWord argument)
          | [flag] => .ok (.option flag explicit)
          | flags => .error (.ambiguous argument (flags.map Flag.longName))
  | ['-', 'h'] => .ok (.option .help none)
  | '-' :: 'h' :: '=' :: tail => .ok (.shortHelp (String.ofList tail))
  | '-' :: 'h' :: tail => .ok (.shortHelp (String.ofList tail))
  | ['-'] => .ok (.value argument)
  | '-' :: _ => .ok (unknownWord argument)
  | _ => .ok (.value argument)

/-- The first pass over all arguments. -/
def words : List String -> Except UsageFault (List Word)
  | [] => .ok []
  | argument :: rest =>
      if argument = "--" then .ok (.separator :: rest.map .value)
      else do
        let word <- classify argument
        return word :: (<- words rest)

/-! ## Second pass: who takes what -/

/-- The depth argument.  Two hyphens given as its value leave it empty. -/
inductive DepthArgument where
  | levels (depth : Int)
  | empty
  deriving DecidableEq, Repr

/-- The arguments of a run.  The value of an option is a text, or an empty list if two hyphens
were given as its value. -/
structure Arguments where
  snapshot : Option String := none
  symbol : Option Value := none
  file : Option Value := none
  depth : Option DepthArgument := none
  theme : Option Value := none
  style : Option Value := none
  noColor : Bool := false
  verbose : Bool := false

/-- Why no arguments result: help was asked for, or something is wrong. -/
inductive Stop where
  | help
  | usage (fault : UsageFault)
  deriving DecidableEq, Repr

/-- The arguments taken so far, whether the place of the snapshot is used up, and what nobody
took. -/
structure Progress where
  arguments : Arguments := {}
  placeUsed : Bool := false
  surplus : List String := []

def optionValue (text : String) : Value :=
  if text = "--" then .list [] else .text text

def depthArgument (text : String) : Except Stop DepthArgument :=
  if text = "--" then .ok .empty
  else
    match depthOfText text with
    | .ok depth => .ok (.levels depth)
    | .error fault => .error (.usage (.invalidDepth fault))

/-- Take an option with its value.  The two options for the focus exclude each other. -/
def Arguments.take (arguments : Arguments) (flag : Flag) (text : String) :
    Except Stop Arguments :=
  match flag with
  | .symbol =>
      if arguments.file.isSome then .error (.usage (.notAllowedWith .symbol .file))
      else .ok { arguments with symbol := some (optionValue text) }
  | .file =>
      if arguments.symbol.isSome then .error (.usage (.notAllowedWith .file .symbol))
      else .ok { arguments with file := some (optionValue text) }
  | .depth => do return { arguments with depth := some (<- depthArgument text) }
  | .theme => .ok { arguments with theme := some (optionValue text) }
  | .style => .ok { arguments with style := some (optionValue text) }
  | .help | .noColor | .verbose => .error (.usage (.ignoredValue flag text))

def Arguments.switchOn (arguments : Arguments) (flag : Flag) : Except Stop Arguments :=
  match flag with
  | .help => .error .help
  | .noColor => .ok { arguments with noColor := true }
  | .verbose => .ok { arguments with verbose := true }
  | flag => .error (.usage (.expectedValue flag))

/-- Take the short name of the help option with more after it.  Only the same name again may
follow. -/
def shortHelpStop (tail : String) : Stop :=
  let rest := tail.toList.dropWhile (· == 'h')
  if tail = "" || !rest.isEmpty then .usage (.ignoredValue .help (String.ofList rest)) else .help

/-- Take a free value: the first one is the snapshot. -/
def Progress.takeValue (progress : Progress) (text : String) : Progress :=
  if progress.placeUsed then { progress with surplus := progress.surplus ++ [text] }
  else
    { progress with
      arguments := { progress.arguments with snapshot := some text }
      placeUsed := true }

/-- The separator is dropped where the snapshot may still come or has just been taken; elsewhere
it is one of the arguments that nobody takes. -/
def Progress.takeSeparator (progress : Progress) (justTaken : Bool) : Progress :=
  if progress.placeUsed && !justTaken then
    { progress with surplus := progress.surplus ++ ["--"] }
  else progress

/-- The second pass.  `justTaken` says that the argument before was taken as the snapshot. -/
def Progress.consume (progress : Progress) (justTaken : Bool) :
    List Word -> Except Stop Progress
  | [] => .ok progress
  | .value text :: rest => (progress.takeValue text).consume (!progress.placeUsed) rest
  | .separator :: rest => (progress.takeSeparator justTaken).consume false rest
  | .unknown text :: rest =>
      Progress.consume { progress with surplus := progress.surplus ++ [text] } false rest
  | .shortHelp tail :: _ => .error (shortHelpStop tail)
  | .option flag (some text) :: rest => do
      let arguments <- progress.arguments.take flag text
      Progress.consume { progress with arguments } false rest
  | .option flag none :: rest =>
      if flag.takesValue then
        match rest with
        | .value text :: rest => do
            let arguments <- progress.arguments.take flag text
            Progress.consume { progress with arguments } false rest
        | _ => .error (.usage (.expectedValue flag))
      else do
        let arguments <- progress.arguments.switchOn flag
        Progress.consume { progress with arguments } false rest

/-- The checks at the end: a focus is required, and everything must have been taken. -/
def Progress.finish (progress : Progress) : Except Stop Arguments :=
  if progress.arguments.symbol.isNone && progress.arguments.file.isNone then
    .error (.usage .focusRequired)
  else if !progress.surplus.isEmpty then .error (.usage (.unrecognized progress.surplus))
  else .ok progress.arguments

def parse (arguments : List String) : Except Stop Arguments :=
  match words arguments with
  | .error fault => .error (.usage fault)
  | .ok words => do (<- Progress.consume {} false words).finish

end Command
end RefTree
