import RefTree.Command.Run
import RefTree.Proofs.Listing.Failures

namespace RefTree

open Document

/-!
# How a run ends

A run that has found its snapshot goes through three stages.  It loads the snapshot and builds the
top rows of the focus; it looks up how to print them; and it prints.  A fault of the tree family in
the first stage ends the run with a message.  The other stages never meet such a fault, because the
settings have none and the printer shows each one in its place.  The depth plays a part only in the
last stage, and so no message depends on it.
-/

/-! ## Faults that end no run with a message -/

/-- An outcome fails, if at all, with a fault outside the tree family. -/
def FailsOutside {result : Type} (outcome : Except Fault result) : Prop :=
  ∀ fault, outcome = .error fault -> fault.isTreeFault = false

namespace FailsOutside

variable {middle output : Type}

theorem ok (value : output) : FailsOutside (.ok value) :=
  fun _ failed => nomatch failed

theorem bind {first : Except Fault middle} {next : middle -> Except Fault output}
    (holds : FailsOutside first) (later : ∀ value, FailsOutside (next value)) :
    FailsOutside (first >>= next) := by
  intro fault failed
  rcases Outcome.bind_eq_error_iff.mp failed with early | ⟨value, _, late⟩
  · exact holds fault early
  · exact later value fault late

theorem map {first : Except Fault middle} (holds : FailsOutside first)
    (arrange : middle -> output) : FailsOutside (first.map arrange) := by
  intro fault failed
  exact holds fault (Outcome.map_eq_error_iff.mp failed)

end FailsOutside

namespace Settings

theorem load_failsOutside (store : Store) : FailsOutside (load store) := by
  intro fault failed
  unfold load at failed
  split at failed
  · split at failed
    · cases failed
    · cases failed
      rfl
    · cases failed
  · cases failed

theorem loadText_failsOutside (name : String) (store : Store) :
    FailsOutside (loadText name store) := by
  apply (load_failsOutside store).bind
  intro members
  split
  · exact FailsOutside.ok _
  · exact FailsOutside.ok _

theorem loadDepth_failsOutside (store : Store) : FailsOutside (loadDepth store) := by
  apply (load_failsOutside store).bind
  intro members
  split
  · exact FailsOutside.ok _
  · exact FailsOutside.ok _

end Settings

/-- Something stands at a path. -/
def Entry.Exists (entry : Entry) : Prop :=
  entry ≠ .missing ∧ entry ≠ .tooLong

namespace Command

/-! ## The stages of a run -/

/-- The first stage: the snapshot that is loaded, and the top rows of the focus in it. -/
def topRows (environment : Environment) (arguments : Arguments) (path : Path) :
    Except Fault (Snapshot × List Row) := do
  let snapshot <- Snapshot.load path (environment.entry path)
  let focus <- focusOf snapshot arguments
  let rows <- focusRows snapshot focus
  return (snapshot, rows)

/-- The depth of a run: the one given, else the one in the settings. -/
def usedDepth (environment : Environment) (arguments : Arguments) : Except Fault DepthArgument :=
  match arguments.depth with
  | some depth => .ok depth
  | none => (Settings.loadDepth environment.settings).map .levels

/-- The theme of a run and the style of values, if they are coloured. -/
def palette (environment : Environment) (arguments : Arguments) :
    Except Fault (Theme × Option Style) := do
  let color := !arguments.noColor && environment.terminal
  let theme <- givenOr arguments.theme
    ((Settings.loadTheme environment.settings).map fun name =>
      name.elim Value.null Value.text)
  let style <-
    if color then
      (givenOr arguments.style
        ((Settings.loadStyle environment.settings).map Value.text)).map fun value =>
          some (environment.style value.plain)
    else .ok none
  return (Theme.resolve theme (!color), style)

/-- The lines that a run prints, once it has found its snapshot. -/
def runLines (environment : Environment) (arguments : Arguments) (path : Path) :
    Except Fault (List String) := do
  let (snapshot, rows) <- topRows environment arguments path
  let depth <- usedDepth environment arguments
  let (theme, style) <- palette environment arguments
  reportLines theme style (depthReports snapshot rows depth)

/-- How a run ends and what it prints, by the lines that it has found. -/
def outcomeOf : Except Fault (List String) -> Ending × String
  | .ok lines => (.success, printed lines)
  | .error fault => (.ofFault fault, "")

theorem appearance_eq (environment : Environment) (arguments : Arguments) :
    appearance environment arguments = do
      let depth <- usedDepth environment arguments
      let (theme, style) <- palette environment arguments
      return { depth, theme, style } := by
  unfold appearance palette usedDepth
  generalize (!arguments.noColor && environment.terminal) = color
  cases arguments.depth with
  | none => cases color <;> simp [bind_assoc]
  | some depth => cases color <;> simp [bind_assoc]

theorem runSnapshot_eq (environment : Environment) (arguments : Arguments) (snapshot : Snapshot) :
    ((runSnapshot environment arguments snapshot).ending,
      (runSnapshot environment arguments snapshot).output) =
        outcomeOf (do
          let focus <- focusOf snapshot arguments
          let rows <- focusRows snapshot focus
          let look <- appearance environment arguments
          reportLines look.theme look.style (depthReports snapshot rows look.depth)) := by
  unfold runSnapshot
  cases focusOf snapshot arguments with
  | error fault => rfl
  | ok focus =>
      simp only [RefTree.Outcome.ok_bind]
      cases focusRows snapshot focus with
      | error fault => rfl
      | ok rows =>
          simp only [RefTree.Outcome.ok_bind]
          cases appearance environment arguments with
          | error fault => rfl
          | ok look =>
              simp only [RefTree.Outcome.ok_bind]
              cases reportLines look.theme look.style (depthReports snapshot rows look.depth) with
              | error fault => rfl
              | ok lines => rfl

/-- A run that has found its snapshot ends by its lines. -/
theorem run_eq {environment : Environment} {line : List String} {given : Arguments} {path : Path}
    (parsed : parse line = .ok given) (chosen : snapshotPath environment given = .ok (some path))
    (existing : (environment.entry path).Exists) :
    ((run environment line).ending, (run environment line).output) =
      outcomeOf (runLines environment given path) := by
  have opened : ((runPath environment given path).ending, (runPath environment given path).output) =
      outcomeOf (runLines environment given path) := by
    simp only [runPath, runLines, topRows]
    cases Snapshot.load path (environment.entry path) with
    | error fault => rfl
    | ok snapshot =>
        simp only [RefTree.Outcome.ok_bind, runSnapshot_eq, appearance_eq, bind_assoc, pure_bind]
  rw [← opened]
  simp only [run, parsed, runArguments, chosen]
  cases found : environment.entry path with
  | missing => exact absurd found existing.1
  | tooLong => exact absurd found existing.2
  | directory => cases given.verbose <;> rfl
  | unreadable report => cases given.verbose <;> rfl
  | file octets => cases given.verbose <;> rfl

/-! ## Messages come from the first stage -/

theorem givenOr_failsOutside {setting : Except Fault Value} (holds : FailsOutside setting)
    (argument : Option Value) : FailsOutside (givenOr argument setting) := by
  unfold givenOr
  split
  · split
    · exact holds
    · exact FailsOutside.ok _
  · exact holds

theorem usedDepth_failsOutside (environment : Environment) (arguments : Arguments) :
    FailsOutside (usedDepth environment arguments) := by
  unfold usedDepth
  split
  · exact FailsOutside.ok _
  · exact (Settings.loadDepth_failsOutside environment.settings).map _

theorem palette_failsOutside (environment : Environment) (arguments : Arguments) :
    FailsOutside (palette environment arguments) := by
  have theme := (Settings.loadText_failsOutside "theme" environment.settings).map fun name =>
    name.elim Value.null Value.text
  have style : FailsOutside (Settings.loadStyle environment.settings) :=
    (Settings.loadText_failsOutside "style" environment.settings).bind fun _ => FailsOutside.ok _
  apply (givenOr_failsOutside theme arguments.theme).bind
  intro chosen
  split
  · have coloured := (givenOr_failsOutside (style.map Value.text) arguments.style).map fun value =>
      some (environment.style value.plain)
    exact coloured.bind fun _ => FailsOutside.ok _
  · exact FailsOutside.ok _

theorem depthReports_failsOutside {snapshot : Snapshot} {rows : List Row}
    (built : ∀ row ∈ rows, row.IsBuilt) (theme : Theme) (style : Option Style)
    (depth : DepthArgument) :
    FailsOutside (reportLines theme style (depthReports snapshot rows depth)) := by
  intro fault failed
  cases depth with
  | levels depth =>
      rcases exists_visited_of_treeLines_eq_error built theme style depth failed with
        ⟨_, _, _, _, _, outside⟩
      exact outside
  | empty =>
      rcases exists_of_reportLines_eq_error failed with stopped | ⟨line, listed, unread⟩
      · rcases List.mem_flatMap.mp stopped with ⟨row, _, inRow⟩
        split at inRow
        · cases List.mem_singleton.mp inRow
          rfl
        · cases List.mem_singleton.mp inRow
      · rcases List.mem_flatMap.mp listed with ⟨row, member, inRow⟩
        split at inRow
        · cases List.mem_singleton.mp inRow
        · cases List.mem_singleton.mp inRow
          rcases (built row member).exists_rowText theme style with ⟨text, shown⟩
          rw [lineText, shown] at unread
          cases unread

/-- The first stage gives rows that the library builds, from the focus in the snapshot. -/
theorem topRows_eq_ok_iff {environment : Environment} {arguments : Arguments} {path : Path}
    {snapshot : Snapshot} {rows : List Row} :
    topRows environment arguments path = .ok (snapshot, rows) ↔
      Snapshot.load path (environment.entry path) = .ok snapshot ∧
        ∃ focus, focusOf snapshot arguments = .ok focus ∧ focusRows snapshot focus = .ok rows := by
  unfold topRows
  simp only [RefTree.Outcome.bind_eq_ok_iff, RefTree.Outcome.pure_eq_ok, Except.ok.injEq,
    Prod.mk.injEq]
  constructor
  · rintro ⟨loaded, opened, focus, found, tops, shown, rfl, rfl⟩
    exact ⟨opened, focus, found, shown⟩
  · rintro ⟨opened, focus, found, shown⟩
    exact ⟨snapshot, opened, focus, found, rows, shown, rfl, rfl⟩

theorem isBuilt_of_topRows {environment : Environment} {arguments : Arguments} {path : Path}
    {snapshot : Snapshot} {rows : List Row}
    (found : topRows environment arguments path = .ok (snapshot, rows)) :
    ∀ row ∈ rows, row.IsBuilt := by
  rcases topRows_eq_ok_iff.mp found with ⟨_, focus, _, shown⟩
  exact isBuilt_of_focusRows shown

/-- A fault of the tree family can come from the first stage only. -/
theorem runLines_eq_error_iff {environment : Environment} {arguments : Arguments} {path : Path}
    {fault : Fault} (inTree : fault.isTreeFault = true) :
    runLines environment arguments path = .error fault ↔
      topRows environment arguments path = .error fault := by
  unfold runLines
  cases found : topRows environment arguments path with
  | error other => simp
  | ok tops =>
      rcases tops with ⟨snapshot, rows⟩
      have later : FailsOutside (do
          let depth <- usedDepth environment arguments
          let (theme, style) <- palette environment arguments
          reportLines theme style (depthReports snapshot rows depth)) :=
        (usedDepth_failsOutside environment arguments).bind fun depth =>
          (palette_failsOutside environment arguments).bind fun colours =>
            depthReports_failsOutside (isBuilt_of_topRows found) colours.1 colours.2 depth
      constructor
      · intro failed
        rw [later fault failed] at inTree
        cases inTree
      · intro impossible
        cases impossible

theorem outcomeOf_message_iff {lines : Except Fault (List String)} {text : String} :
    (outcomeOf lines).1 = .message text ↔
      ∃ fault, lines = .error fault ∧ fault.isTreeFault = true ∧
        text = programName ++ ": " ++ fault.message := by
  cases lines with
  | ok lines => simp [outcomeOf]
  | error fault =>
      cases inTree : fault.isTreeFault with
      | true =>
          simp only [outcomeOf, Ending.ofFault, inTree, if_true, Ending.message.injEq,
            Except.error.injEq, exists_eq_left', true_and]
          exact eq_comm
      | false => simp [outcomeOf, Ending.ofFault, inTree]

theorem outcomeOf_success_iff {lines : Except Fault (List String)} :
    (outcomeOf lines).1 = .success ↔ ∃ found, lines = .ok found := by
  cases lines with
  | ok lines => simp [outcomeOf]
  | error fault =>
      cases inTree : fault.isTreeFault with
      | true => simp [outcomeOf, Ending.ofFault, inTree]
      | false => simp [outcomeOf, Ending.ofFault, inTree]

/-! ## Messages do not depend on the depth -/

/-- Arguments that differ at most in the depth. -/
def Arguments.SameButDepth (first second : Arguments) : Prop :=
  { first with depth := none } = { second with depth := none }

/-- The first stage does not look at the depth. -/
theorem Arguments.SameButDepth.topRows_eq {first second : Arguments}
    (same : first.SameButDepth second) (environment : Environment) (path : Path) :
    topRows environment first path = topRows environment second path := by
  change topRows environment { first with depth := none } path =
    topRows environment { second with depth := none } path
  rw [same]

theorem Arguments.SameButDepth.snapshotPath_eq {first second : Arguments}
    (same : first.SameButDepth second) (environment : Environment) :
    snapshotPath environment first = snapshotPath environment second := by
  change snapshotPath environment { first with depth := none } =
    snapshotPath environment { second with depth := none }
  rw [same]

section Run

variable {environment : Environment} {line : List String} {given : Arguments} {path : Path}
  (parsed : parse line = .ok given) (chosen : snapshotPath environment given = .ok (some path))
  (existing : (environment.entry path).Exists)
include parsed chosen existing

theorem run_ending :
    (run environment line).ending = (outcomeOf (runLines environment given path)).1 :=
  congrArg Prod.fst (run_eq parsed chosen existing)

theorem run_output :
    (run environment line).output = (outcomeOf (runLines environment given path)).2 :=
  congrArg Prod.snd (run_eq parsed chosen existing)

/-- A run ends with a message exactly if its first stage meets a fault of the tree family. -/
theorem run_message_iff (text : String) :
    (run environment line).ending = .message text ↔
      ∃ fault, topRows environment given path = .error fault ∧ fault.isTreeFault = true ∧
        text = programName ++ ": " ++ fault.message := by
  rw [run_ending parsed chosen existing, outcomeOf_message_iff]
  constructor
  · rintro ⟨fault, failed, inTree, same⟩
    exact ⟨fault, (runLines_eq_error_iff inTree).mp failed, inTree, same⟩
  · rintro ⟨fault, failed, inTree, same⟩
    exact ⟨fault, (runLines_eq_error_iff inTree).mpr failed, inTree, same⟩

/-- Another depth gives the same message, or none as well. -/
theorem run_message_iff_of_sameButDepth {other : List String} {otherGiven : Arguments}
    (otherParsed : parse other = .ok otherGiven) (same : otherGiven.SameButDepth given)
    (text : String) :
    (run environment other).ending = .message text ↔
      (run environment line).ending = .message text := by
  have otherChosen := (same.snapshotPath_eq environment).trans chosen
  rw [run_message_iff otherParsed otherChosen existing, run_message_iff parsed chosen existing,
    same.topRows_eq environment path]

/-- A run that does not succeed prints nothing. -/
theorem output_of_not_success (unsuccessful : (run environment line).ending ≠ .success) :
    (run environment line).output = "" := by
  rw [run_ending parsed chosen existing, Ne, outcomeOf_success_iff] at unsuccessful
  rw [run_output parsed chosen existing]
  cases found : runLines environment given path with
  | error fault => rfl
  | ok lines => exact absurd ⟨lines, found⟩ unsuccessful

end Run

/-! ## Only the last stage looks at the depth -/

theorem runLines_of_levels {environment : Environment} {given : Arguments} {depth : Int}
    (levels : usedDepth environment given = .ok (.levels depth)) (path : Path) :
    runLines environment given path =
      topRows environment given path >>= fun tops =>
        palette environment given >>= fun colours =>
          treeLines tops.1 colours.1 colours.2 depth tops.2 := by
  unfold runLines
  rw [levels]
  rfl

/-- Once the top rows are there and it is known how to print them, a run fails exactly if a row
that has to be opened meets an infinite number. -/
theorem runLines_eq_error_of_topRows {environment : Environment} {given : Arguments} {path : Path}
    {depth : Int} (levels : usedDepth environment given = .ok (.levels depth))
    {snapshot : Snapshot} {rows : List Row} {colours : Theme × Option Style}
    (found : topRows environment given path = .ok (snapshot, rows))
    (coloured : palette environment given = .ok colours) (fault : Fault) :
    runLines environment given path = .error fault ↔
      fault = .infiniteInteger ∧ OpensInfinity snapshot depth rows := by
  rw [runLines_of_levels levels, found, RefTree.Outcome.ok_bind, coloured, RefTree.Outcome.ok_bind]
  exact treeLines_eq_error_iff (isBuilt_of_topRows found) colours.1 colours.2 depth fault

section Run

variable {environment : Environment} {line : List String} {given : Arguments} {path : Path}
  {depth : Int} (parsed : parse line = .ok given)
  (chosen : snapshotPath environment given = .ok (some path))
  (existing : (environment.entry path).Exists)
  (levels : usedDepth environment given = .ok (.levels depth))
include parsed chosen existing levels

/-- A run that succeeds prints the tree of its focus. -/
theorem exists_lines_of_success (succeeded : (run environment line).ending = .success) :
    ∃ snapshot focus rows theme style lines,
      Snapshot.load path (environment.entry path) = .ok snapshot ∧
      focusOf snapshot given = .ok focus ∧ focusRows snapshot focus = .ok rows ∧
      palette environment given = .ok (theme, style) ∧
      treeLines snapshot theme style depth rows = .ok lines ∧
      (run environment line).output = printed lines ∧
      ShowsFailures snapshot theme style depth rows lines := by
  rw [run_ending parsed chosen existing, outcomeOf_success_iff] at succeeded
  rcases succeeded with ⟨lines, found⟩
  have output := run_output parsed chosen existing
  rw [found] at output
  rw [runLines_of_levels levels, RefTree.Outcome.bind_eq_ok_iff] at found
  rcases found with ⟨⟨snapshot, rows⟩, tops, later⟩
  rcases RefTree.Outcome.bind_eq_ok_iff.mp later with ⟨⟨theme, style⟩, coloured, shown⟩
  rcases topRows_eq_ok_iff.mp tops with ⟨loaded, focus, resolved, opened⟩
  exact ⟨snapshot, focus, rows, theme, style, lines, loaded, resolved, opened, coloured, shown,
    output, showsFailures_of_treeLines shown⟩

section Printing

variable {snapshot : Snapshot} {rows : List Row} {colours : Theme × Option Style}
  (tops : topRows environment given path = .ok (snapshot, rows))
  (coloured : palette environment given = .ok colours)
include tops coloured

theorem run_ending_of_opensInfinity (infinite : OpensInfinity snapshot depth rows) :
    (run environment line).ending = .fault .infiniteInteger := by
  have failure := runLines_eq_error_of_topRows levels tops coloured .infiniteInteger
  rw [run_ending parsed chosen existing, failure.mpr ⟨rfl, infinite⟩]
  rfl

/-- Once there are top rows to print, a run succeeds unless it opens a row that meets an infinite
number. -/
theorem run_success_iff_of_topRows :
    (run environment line).ending = .success ↔ ¬OpensInfinity snapshot depth rows := by
  constructor
  · intro succeeded infinite
    rw [run_ending_of_opensInfinity parsed chosen existing levels tops coloured infinite]
      at succeeded
    cases succeeded
  · intro finite
    rw [run_ending parsed chosen existing, outcomeOf_success_iff]
    cases found : runLines environment given path with
    | error fault =>
        exact absurd ((runLines_eq_error_of_topRows levels tops coloured fault).mp found).2 finite
    | ok lines => exact ⟨lines, rfl⟩

end Printing

end Run

/-- A run ends with a message exactly if loading the snapshot, finding the focus or building its top
rows meets a fault of the tree family, and so it does at every depth, with the same message.  It
prints nothing unless it succeeds, and then all lines of the tree, with each failure in its place.
Below the top rows, only an infinite number keeps a run from succeeding.

Two limits of a real machine are left out here.  A document or a tree can be nested too deep for the
stack.  Half of a surrogate pair cannot be encoded in the output; it is replaced when the snapshot
is read, so no output holds one. -/
theorem depth_changes_no_message {environment : Environment} {line : List String}
    {given : Arguments} {path : Path} {depth : Int} (parsed : parse line = .ok given)
    (chosen : snapshotPath environment given = .ok (some path))
    (existing : (environment.entry path).Exists)
    (levels : usedDepth environment given = .ok (.levels depth)) :
    (∀ text, (run environment line).ending = .message text ↔
      ∃ fault, topRows environment given path = .error fault ∧ fault.isTreeFault = true ∧
        text = programName ++ ": " ++ fault.message) ∧
    (∀ other otherGiven, parse other = .ok otherGiven -> otherGiven.SameButDepth given ->
      ∀ text, (run environment other).ending = .message text ↔
        (run environment line).ending = .message text) ∧
    ((run environment line).ending ≠ .success -> (run environment line).output = "") ∧
    ((run environment line).ending = .success ->
      ∃ snapshot focus rows theme style lines,
        Snapshot.load path (environment.entry path) = .ok snapshot ∧
        focusOf snapshot given = .ok focus ∧ focusRows snapshot focus = .ok rows ∧
        palette environment given = .ok (theme, style) ∧
        treeLines snapshot theme style depth rows = .ok lines ∧
        (run environment line).output = printed lines ∧
        ShowsFailures snapshot theme style depth rows lines) ∧
    ∀ snapshot rows colours, topRows environment given path = .ok (snapshot, rows) ->
      palette environment given = .ok colours ->
        ((run environment line).ending = .success ↔ ¬OpensInfinity snapshot depth rows) ∧
        (OpensInfinity snapshot depth rows ->
          (run environment line).ending = .fault .infiniteInteger) := by
  refine ⟨run_message_iff parsed chosen existing, ?_, output_of_not_success parsed chosen existing,
    exists_lines_of_success parsed chosen existing levels, ?_⟩
  · intro other otherGiven otherParsed same
    exact run_message_iff_of_sameButDepth parsed chosen existing otherParsed same
  · intro snapshot rows colours tops coloured
    exact ⟨run_success_iff_of_topRows parsed chosen existing levels tops coloured,
      run_ending_of_opensInfinity parsed chosen existing levels tops coloured⟩

namespace BrokenRuns

def payload (number : Value) : Value :=
  .object [("id", .text "u"), ("range", .object [("file", .text "f"),
    ("startpos", .object [("line", number)])])]

/-- A symbol that is used in one place and overridden in another.  The number of the line is null in
the one and given in the other. -/
def document (number : Value) : Value :=
  .object [("symbols", .object [("s", .object [
    ("reference_types", .object [(usageName, .int 0), ("Overridden by", .int 1)]),
    ("references", .object [("0", .list [payload .null]), ("1", .list [payload number])])])])]

/-- All files hold the same snapshot, and nothing is set. -/
def environment (number : Value) : Environment where
  entry _ := .file (Text.Utf8.encode (writeBlock (document number)))
  settings := .missing
  homes := { own := some "/home/me", ofUser := fun _ => none }
  style _ := id
  terminal := false

def lineFor (symbol depth : String) : List String :=
  ["index.json", "--symbol", symbol, "--depth", depth]

/-- The tree to the second level, if all numbers are finite. -/
def output : String :=
  "▾ Usage\n    error: line of reference 'u' must be an integer, got None\n" ++
    "▾ Overridden by\n    3:0: \n"

def given (symbol : String) (depth : Int) : Arguments where
  snapshot := some "index.json"
  symbol := some (.text symbol)
  depth := some (.levels depth)

theorem exists_entry (number : Value) (path : Path) : ((environment number).entry path).Exists :=
  ⟨nofun, nofun⟩

/-- An unknown symbol is reported alike at two depths.  What cannot be opened below a known one is
shown in its place. -/
theorem depth_changes_no_message_of_broken_runs :
    (run (environment (.int 3)) (lineFor "t" "1")).ending =
        .message "infotree: unknown symbol id: t" ∧
      (run (environment (.int 3)) (lineFor "t" "9")).ending =
        .message "infotree: unknown symbol id: t" ∧
      (run (environment (.int 3)) (lineFor "s" "2")).output = output ∧
      ∃ snapshot rows theme style lines, treeLines snapshot theme style 2 rows = .ok lines ∧
        output = printed lines ∧ ShowsFailures snapshot theme style 2 rows lines := by
  have evaluated : (run (environment (.int 3)) (lineFor "t" "1")).ending =
        .message "infotree: unknown symbol id: t" ∧
      run (environment (.int 3)) (lineFor "s" "2") = { ending := .success, output } := by
    decide +kernel
  rcases evaluated with ⟨unknown, shown⟩
  have parsed : parse (lineFor "t" "1") = .ok (given "t" 1) := by rfl
  have deeper : parse (lineFor "t" "9") = .ok (given "t" 9) := by rfl
  have known : parse (lineFor "s" "2") = .ok (given "s" 2) := by rfl
  have atOne := depth_changes_no_message parsed rfl (exists_entry (.int 3) _) rfl
  have atTwo := depth_changes_no_message known rfl (exists_entry (.int 3) _) rfl
  rcases atTwo.2.2.2.1 (by rw [shown]) with
    ⟨snapshot, _, rows, theme, style, lines, _, _, _, _, found, printedLines, failures⟩
  rw [shown] at printedLines
  exact ⟨unknown, (atOne.2.1 _ _ deeper rfl _).mpr unknown, by rw [shown], snapshot, rows, theme,
    style, lines, found, printedLines, failures⟩

/-- An infinite number below a row is no matter as long as the row is not opened, and ends the run
without output or message if it is. -/
theorem infinite_number_ends_run :
    run (environment (.double (.infinite false))) (lineFor "s" "1") =
        { ending := .success, output := "▸ Usage\n▸ Overridden by\n" } ∧
      run (environment (.double (.infinite false))) (lineFor "s" "2") =
        { ending := .fault .infiniteInteger } := by
  decide +kernel

end BrokenRuns

end Command
end RefTree
