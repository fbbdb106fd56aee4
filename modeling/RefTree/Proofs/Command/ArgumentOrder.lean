import Mathlib.Data.List.Nodup
import Mathlib.Data.List.Perm.Basic
import Mathlib.Logic.Function.Basic
import RefTree.Command.Arguments
import RefTree.Proofs.Outcome

namespace RefTree
namespace Command

open Document

/-!
# The order of arguments

A command line is made of pieces: an option with its value, a switch, or the path of the snapshot.
Each piece is read by itself in the first pass.  In the second pass each piece fills one place of
the arguments, and the only other place that it looks at is that of an option which it excludes.  So
the arguments that result hold what the pieces say and nothing else, wherever the pieces stand.

What is said here is about pieces whose values and paths could not be taken for options: they are
not empty and do not start with a hyphen.  Options are written by their full names.
-/

/-- A text that is never taken for an option. -/
structure Operand where
  text : String
  nonempty : text ≠ ""
  noHyphen : text.toList.head? ≠ some '-'

/-- A piece of a command line. -/
inductive Piece where
  | valued (flag : Flag) (takesValue : flag.takesValue = true) (value : Operand) (joined : Bool)
  | noColor
  | verbose
  | snapshot (path : Operand)

namespace Piece

/-- The arguments that a piece is written as.  A value may be joined to its option or follow it. -/
def written : Piece -> List String
  | .valued flag _ value true => [flag.longName ++ "=" ++ value.text]
  | .valued flag _ value false => [flag.longName, value.text]
  | .noColor => [Flag.noColor.longName]
  | .verbose => [Flag.verbose.longName]
  | .snapshot path => [path.text]

/-- The place that a piece fills: that of its option, or the one of the snapshot. -/
def place : Piece -> Option Flag
  | .valued flag _ _ _ => some flag
  | .noColor => some .noColor
  | .verbose => some .verbose
  | .snapshot _ => none

/-- What a piece becomes in the first pass. -/
def read : Piece -> List Word
  | .valued flag _ value true => [.option flag (some value.text)]
  | .valued flag _ value false => [.option flag none, .value value.text]
  | .noColor => [.option .noColor none]
  | .verbose => [.option .verbose none]
  | .snapshot path => [.value path.text]

end Piece

/-! ## The first pass -/

theorem Flag.exists_longName (flag : Flag) :
    ∃ rest, flag.longName.toList = '-' :: '-' :: rest := by
  cases flag <;> exact ⟨_, rfl⟩

theorem Flag.equals_not_mem_longName (flag : Flag) : '=' ∉ flag.longName.toList := by
  cases flag <;> decide

theorem Flag.find?_longName (flag : Flag) :
    (Flag.all.find? fun other => other.longName == flag.longName) = some flag := by
  cases flag <;> decide

/-- A name without an equals sign is passed as a whole. -/
theorem takeWhile_name {name : List Char} (noEquals : '=' ∉ name) (tail : List Char) :
    (name ++ tail).takeWhile (· != '=') = name ++ tail.takeWhile (· != '=') := by
  apply List.takeWhile_append_of_pos
  intro c member
  have other : c ≠ '=' := fun same => noEquals (same ▸ member)
  simpa using other

/-- An option is split from what is joined to it at the first equals sign. -/
theorem splitEquals_joined {name : List Char} (noEquals : '=' ∉ name) (text : List Char) :
    splitEquals (name ++ '=' :: text) = (String.ofList name, some (String.ofList text)) := by
  have taken : (name ++ '=' :: text).takeWhile (· != '=') = name := by
    rw [takeWhile_name noEquals]
    simp
  unfold splitEquals
  simp only [taken, List.drop_left]

theorem splitEquals_name {name : List Char} (noEquals : '=' ∉ name) :
    splitEquals name = (String.ofList name, none) := by
  have taken : name.takeWhile (· != '=') = name := by
    simpa using takeWhile_name noEquals []
  unfold splitEquals
  simp only [taken, List.drop_length]

theorem classify_of_splitEquals {argument : String} {rest : List Char} {flag : Flag}
    {explicit : Option String} (shape : argument.toList = '-' :: '-' :: rest)
    (split : splitEquals argument.toList = (flag.longName, explicit)) :
    classify argument = .ok (.option flag explicit) := by
  unfold classify
  rw [shape] at split ⊢
  simp only [split, flag.find?_longName]

theorem classify_longName (flag : Flag) :
    classify flag.longName = .ok (.option flag none) := by
  rcases flag.exists_longName with ⟨rest, shape⟩
  apply classify_of_splitEquals shape
  rw [splitEquals_name flag.equals_not_mem_longName, String.ofList_toList]

theorem classify_joined (flag : Flag) (text : String) :
    classify (flag.longName ++ "=" ++ text) = .ok (.option flag (some text)) := by
  rcases flag.exists_longName with ⟨rest, shape⟩
  have joined : (flag.longName ++ "=" ++ text).toList =
      flag.longName.toList ++ '=' :: text.toList := by
    simp
  have longer : (flag.longName ++ "=" ++ text).toList =
      '-' :: '-' :: (rest ++ '=' :: text.toList) := by
    rw [joined, shape, List.cons_append, List.cons_append]
  apply classify_of_splitEquals longer
  rw [joined, splitEquals_joined flag.equals_not_mem_longName, String.ofList_toList,
    String.ofList_toList]

theorem Operand.exists_toList (operand : Operand) :
    ∃ first rest, operand.text.toList = first :: rest ∧ first ≠ '-' := by
  cases shape : operand.text.toList with
  | nil => exact absurd (String.toList_eq_nil_iff.mp shape) operand.nonempty
  | cons first rest =>
      refine ⟨first, rest, rfl, ?_⟩
      rintro rfl
      exact operand.noHyphen (by rw [shape, List.head?_cons])

theorem Operand.classify (operand : Operand) :
    classify operand.text = .ok (.value operand.text) := by
  rcases operand.exists_toList with ⟨first, rest, shape, other⟩
  unfold Command.classify
  rw [shape]
  split <;> simp_all

/-- One argument that is read by itself.  The separator is not, so what can be read is none. -/
theorem words_cons {argument : String} {word : Word} {rest : List String} {others : List Word}
    (first : classify argument = .ok word) (later : words rest = .ok others) :
    words (argument :: rest) = .ok (word :: others) := by
  have noSeparator : argument ≠ "--" := by
    rintro rfl
    cases first
  rw [words, if_neg noSeparator, first, later]
  rfl

/-- Each piece is read by itself. -/
theorem words_written (pieces : List Piece) :
    words (pieces.flatMap Piece.written) = .ok (pieces.flatMap Piece.read) := by
  induction pieces with
  | nil => rfl
  | cons piece rest inductionHypothesis =>
      rw [List.flatMap_cons, List.flatMap_cons]
      cases piece with
      | valued flag takesValue value joined =>
          cases joined with
          | true => exact words_cons (classify_joined flag value.text) inductionHypothesis
          | false =>
              exact words_cons (classify_longName flag)
                (words_cons value.classify inductionHypothesis)
      | noColor => exact words_cons (classify_longName .noColor) inductionHypothesis
      | verbose => exact words_cons (classify_longName .verbose) inductionHypothesis
      | snapshot path => exact words_cons path.classify inductionHypothesis

/-! ## The places of the arguments -/

/-- What the arguments can hold in a place.  A switch is on or not there at all. -/
def Held : Option Flag -> Type
  | none => String
  | some .symbol | some .file | some .theme | some .style => Value
  | some .depth => DepthArgument
  | some .noColor | some .verbose => Unit
  | some .help => Empty

namespace Arguments

/-- What the arguments hold in a place, if it was filled. -/
def held (arguments : Arguments) : (place : Option Flag) -> Option (Held place)
  | none => arguments.snapshot
  | some .symbol => arguments.symbol
  | some .file => arguments.file
  | some .depth => arguments.depth
  | some .theme => arguments.theme
  | some .style => arguments.style
  | some .noColor => if arguments.noColor then some () else none
  | some .verbose => if arguments.verbose then some () else none
  | some .help => none

def fill (arguments : Arguments) : (place : Option Flag) -> Held place -> Arguments
  | none, text => { arguments with snapshot := some text }
  | some .symbol, value => { arguments with symbol := some value }
  | some .file, value => { arguments with file := some value }
  | some .depth, depth => { arguments with depth := some depth }
  | some .theme, value => { arguments with theme := some value }
  | some .style, value => { arguments with style := some value }
  | some .noColor, () => { arguments with noColor := true }
  | some .verbose, () => { arguments with verbose := true }
  | some .help, impossible => nomatch impossible

/-- Filling a place changes what is held there and nowhere else. -/
theorem held_fill (arguments : Arguments) (place : Option Flag) (new : Held place) :
    (arguments.fill place new).held = Function.update arguments.held place (some new) := by
  funext other
  rcases place with _ | flag
  · rcases other with _ | other
    · rfl
    · cases other <;> rfl
  · cases flag with
    | help => exact nomatch new
    | _ =>
        rcases other with _ | other
        · rfl
        · cases other <;> rfl

/-- The arguments are nothing but what they hold. -/
theorem held_injective : held.Injective := by
  intro first second equal
  have switches : ∀ left right : Bool,
      (if left then some () else none) = (if right then some () else none) -> left = right := by
    decide
  have sameNoColor := switches _ _ (congrFun equal (some .noColor))
  have sameVerbose := switches _ _ (congrFun equal (some .verbose))
  have sameSnapshot : first.snapshot = second.snapshot := congrFun equal none
  have sameSymbol : first.symbol = second.symbol := congrFun equal (some .symbol)
  have sameFile : first.file = second.file := congrFun equal (some .file)
  have sameDepth : first.depth = second.depth := congrFun equal (some .depth)
  have sameTheme : first.theme = second.theme := congrFun equal (some .theme)
  have sameStyle : first.style = second.style := congrFun equal (some .style)
  cases first
  cases second
  simp only at *
  rw [sameSnapshot, sameSymbol, sameFile, sameDepth, sameTheme, sameStyle, sameNoColor,
    sameVerbose]

end Arguments

/-! ## One piece in the second pass -/

/-- The option that an option excludes. -/
def Flag.rival? : Flag -> Option Flag
  | .symbol => some .file
  | .file => some .symbol
  | _ => none

theorem Flag.rival?_symm {flag rival : Flag} (excluded : flag.rival? = some rival) :
    rival.rival? = some flag := by
  cases flag <;> cases excluded <;> rfl

/-- What an option holds once it was given a text. -/
def textHeld (text : String) : (flag : Flag) -> Except Stop (Held (some flag))
  | .depth => depthArgument text
  | .symbol => .ok (optionValue text)
  | .file => .ok (optionValue text)
  | .theme => .ok (optionValue text)
  | .style => .ok (optionValue text)
  | .help => .error (.usage (.ignoredValue .help text))
  | .noColor => .error (.usage (.ignoredValue .noColor text))
  | .verbose => .error (.usage (.ignoredValue .verbose text))

/-- An option whose rival was not given fills its place with the text, if it can be read. -/
theorem Arguments.take_of_free {arguments : Arguments} {flag : Flag} (text : String)
    (free : ∀ rival, flag.rival? = some rival -> arguments.held (some rival) = none) :
    arguments.take flag text = (textHeld text flag).map (arguments.fill (some flag)) := by
  cases flag with
  | symbol =>
      have noFile : arguments.file = none := free .file rfl
      exact if_neg (by simp [noFile])
  | file =>
      have noSymbol : arguments.symbol = none := free .symbol rfl
      exact if_neg (by simp [noSymbol])
  | depth =>
      change (depthArgument text >>= fun depth => pure { arguments with depth := some depth }) =
        (depthArgument text).map _
      cases depthArgument text <;> rfl
  | _ => rfl

theorem Arguments.take_of_rival {arguments : Arguments} {flag rival : Flag} (text : String)
    (excluded : flag.rival? = some rival) (given : (arguments.held (some rival)).isSome) :
    arguments.take flag text = .error (.usage (.notAllowedWith flag rival)) := by
  cases flag with
  | symbol =>
      cases excluded
      exact if_pos given
  | file =>
      cases excluded
      exact if_pos given
  | _ => cases excluded

/-- An option takes a text exactly if the option that it excludes was not given and the text can be
read.  Its place is then filled. -/
theorem Arguments.take_eq_ok_iff {arguments next : Arguments} {flag : Flag} {text : String} :
    arguments.take flag text = .ok next ↔
      (∀ rival, flag.rival? = some rival -> arguments.held (some rival) = none) ∧
        ∃ new, textHeld text flag = .ok new ∧ next = arguments.fill (some flag) new := by
  constructor
  · intro taken
    have free : ∀ rival, flag.rival? = some rival -> arguments.held (some rival) = none := by
      intro rival excluded
      by_contra given
      rw [take_of_rival text excluded (Option.isSome_iff_ne_none.mpr given)] at taken
      cases taken
    rw [take_of_free text free] at taken
    exact ⟨free, Outcome.map_eq_ok_iff.mp taken⟩
  · rintro ⟨free, read⟩
    rw [take_of_free text free]
    exact Outcome.map_eq_ok_iff.mpr read

namespace Piece

/-- What a piece gives to its place. -/
def held : (piece : Piece) -> Except Stop (Held piece.place)
  | .valued flag _ value _ => textHeld value.text flag
  | .noColor => .ok ()
  | .verbose => .ok ()
  | .snapshot path => .ok path.text

/-- The option that a piece excludes. -/
def rival? (piece : Piece) : Option Flag :=
  piece.place.bind Flag.rival?

/-- What happens to a piece in the second pass. -/
def enter (progress : Progress) : Piece -> Except Stop Progress
  | .valued flag _ value _ =>
      return { progress with arguments := (<- progress.arguments.take flag value.text) }
  | .noColor => return { progress with arguments := (<- progress.arguments.switchOn .noColor) }
  | .verbose => return { progress with arguments := (<- progress.arguments.switchOn .verbose) }
  | .snapshot path => .ok (progress.takeValue path.text)

end Piece

/-- A switch is taken whatever comes after it. -/
theorem consume_switch (progress : Progress) (justTaken : Bool) (rest : List Word) {flag : Flag}
    (isSwitch : flag.takesValue = false) :
    progress.consume justTaken (.option flag none :: rest) =
      progress.arguments.switchOn flag >>= fun arguments =>
        Progress.consume { progress with arguments } false rest := by
  rw [Progress.consume.eq_def]
  simp only [isSwitch, Bool.false_eq_true, if_false]

/-- The second pass takes one piece after another. -/
theorem consume_read (pieces : List Piece) (progress : Progress) (justTaken : Bool) :
    progress.consume justTaken (pieces.flatMap Piece.read) =
      pieces.foldlM Piece.enter progress := by
  induction pieces generalizing progress justTaken with
  | nil => rfl
  | cons piece rest inductionHypothesis =>
      rw [List.flatMap_cons, List.foldlM_cons]
      cases piece with
      | valued flag takesValue value joined =>
          cases joined with
          | true =>
              rw [Piece.read, List.singleton_append, Progress.consume, Piece.enter, bind_assoc]
              simp only [inductionHypothesis, pure_bind]
          | false =>
              rw [Piece.read, List.cons_append, List.singleton_append, Progress.consume,
                if_pos takesValue, Piece.enter, bind_assoc]
              simp only [inductionHypothesis, pure_bind]
      | noColor =>
          rw [Piece.read, List.singleton_append, consume_switch progress justTaken _ rfl]
          exact inductionHypothesis _ _
      | verbose =>
          rw [Piece.read, List.singleton_append, consume_switch progress justTaken _ rfl]
          exact inductionHypothesis _ _
      | snapshot path =>
          rw [Piece.read, List.singleton_append, Progress.consume]
          exact inductionHypothesis _ _

/-- The state after a piece has filled its place. -/
def Progress.fill (progress : Progress) (place : Option Flag) (new : Held place) : Progress :=
  { progress with
    arguments := progress.arguments.fill place new
    placeUsed := progress.placeUsed || place.isNone }

/-- An option leaves the place of the snapshot alone. -/
theorem Progress.fill_some (progress : Progress) {flag : Flag} (new : Held (some flag)) :
    progress.fill (some flag) new =
      { progress with arguments := progress.arguments.fill (some flag) new } := by
  simp [fill]

/-- A piece that nothing excludes and that can be read always fills its place. -/
theorem Piece.enter_eq_ok_iff_of_fill {piece : Piece} {progress next : Progress}
    {new : Held piece.place} (noRival : piece.rival? = none) (read : piece.held = .ok new)
    (entered : enter progress piece = .ok (progress.fill piece.place new)) :
    enter progress piece = .ok next ↔
      (∀ rival, piece.rival? = some rival -> progress.arguments.held (some rival) = none) ∧
        ∃ new, piece.held = .ok new ∧ next = progress.fill piece.place new := by
  rw [entered]
  constructor
  · rintro ⟨⟩
    exact ⟨by simp [noRival], new, read, rfl⟩
  · rintro ⟨_, other, again, rfl⟩
    cases read.symm.trans again
    rfl

/-- A piece is taken exactly if the option that it excludes was not given and it can be read.  It
then fills its place. -/
theorem Piece.enter_eq_ok_iff {piece : Piece} {progress next : Progress}
    (placeFree : piece.place = none -> progress.placeUsed = false) :
    enter progress piece = .ok next ↔
      (∀ rival, piece.rival? = some rival -> progress.arguments.held (some rival) = none) ∧
        ∃ new, piece.held = .ok new ∧ next = progress.fill piece.place new := by
  cases piece with
  | valued flag takesValue value joined =>
      simp only [enter, Outcome.bind_pure_eq_ok_iff, Arguments.take_eq_ok_iff]
      constructor
      · rintro ⟨arguments, ⟨free, new, read, rfl⟩, rfl⟩
        exact ⟨free, new, read, (progress.fill_some new).symm⟩
      · rintro ⟨free, new, read, rfl⟩
        exact ⟨_, ⟨free, new, read, rfl⟩, progress.fill_some new⟩
  | noColor =>
      apply enter_eq_ok_iff_of_fill rfl rfl
      exact congrArg Except.ok (@Progress.fill_some progress .noColor ()).symm
  | verbose =>
      apply enter_eq_ok_iff_of_fill rfl rfl
      exact congrArg Except.ok (@Progress.fill_some progress .verbose ()).symm
  | snapshot path =>
      apply enter_eq_ok_iff_of_fill rfl rfl
      simp only [enter, Progress.takeValue, placeFree rfl, Progress.fill]
      rfl

/-! ## All pieces -/

/-- The arguments hold what some pieces say and nothing else. -/
structure Arguments.Holds (arguments : Arguments) (pieces : List Piece) : Prop where
  given : ∀ piece ∈ pieces, ∃ new, piece.held = .ok new ∧
    arguments.held piece.place = some new
  only : ∀ place, place ∉ pieces.map Piece.place -> arguments.held place = none

/-- No piece excludes another one. -/
def Compatible (pieces : List Piece) : Prop :=
  ∀ flag rival, flag.rival? = some rival -> some flag ∈ pieces.map Piece.place ->
    some rival ∉ pieces.map Piece.place

namespace Arguments.Holds

/-- Pieces leave no choice of arguments that hold them. -/
theorem unique {first second : Arguments} {pieces : List Piece} (holds : first.Holds pieces)
    (others : second.Holds pieces) : first = second := by
  apply held_injective
  funext place
  by_cases filled : place ∈ pieces.map Piece.place
  · rcases List.mem_map.mp filled with ⟨piece, member, rfl⟩
    rcases holds.given piece member with ⟨new, read, found⟩
    rcases others.given piece member with ⟨other, readAgain, foundAgain⟩
    cases read.symm.trans readAgain
    rw [found, foundAgain]
  · rw [holds.only place filled, others.only place filled]

theorem perm {arguments : Arguments} {pieces reordered : List Piece}
    (holds : arguments.Holds pieces) (order : pieces.Perm reordered) :
    arguments.Holds reordered where
  given := fun piece member => holds.given piece (order.mem_iff.mpr member)
  only := fun place absent => holds.only place fun filled =>
    absent ((order.map Piece.place).mem_iff.mp filled)

/-- A place is empty exactly if no piece fills it. -/
theorem held_eq_none_iff {arguments : Arguments} {pieces : List Piece}
    (holds : arguments.Holds pieces) (place : Option Flag) :
    arguments.held place = none ↔ place ∉ pieces.map Piece.place := by
  constructor
  · intro empty filled
    rcases List.mem_map.mp filled with ⟨piece, member, rfl⟩
    rcases holds.given piece member with ⟨new, _, found⟩
    rw [empty] at found
    cases found
  · exact holds.only place

/-- Filling a new place adds a piece. -/
theorem fill {arguments : Arguments} {pieces : List Piece} (holds : arguments.Holds pieces)
    {piece : Piece} (new : piece.place ∉ pieces.map Piece.place) {held : Held piece.place}
    (read : piece.held = .ok held) : (arguments.fill piece.place held).Holds (piece :: pieces) where
  given := by
    intro other member
    rw [held_fill]
    rcases List.mem_cons.mp member with rfl | later
    · exact ⟨held, read, Function.update_self _ _ _⟩
    · have different : other.place ≠ piece.place := fun same =>
        new (same ▸ List.mem_map_of_mem later)
      rw [Function.update_of_ne different]
      exact holds.given other later
  only := by
    intro place absent
    rw [List.map_cons, List.mem_cons, not_or] at absent
    rw [held_fill, Function.update_of_ne absent.1]
    exact holds.only place absent.2

end Arguments.Holds

namespace Compatible

theorem mono {pieces more : List Piece} (compatible : Compatible more) (subset : pieces ⊆ more) :
    Compatible pieces := by
  intro flag rival excluded first second
  have places : pieces.map Piece.place ⊆ more.map Piece.place := List.map_subset _ subset
  exact compatible flag rival excluded (places first) (places second)

theorem cons {piece : Piece} {pieces : List Piece} (compatible : Compatible pieces)
    (free : ∀ rival, piece.rival? = some rival -> some rival ∉ pieces.map Piece.place) :
    Compatible (piece :: pieces) := by
  intro flag rival excluded first second
  rw [List.map_cons, List.mem_cons] at first second
  rcases first with own | first
  · have isRival : piece.rival? = some rival := by
      rw [Piece.rival?, ← own, Option.bind_some, excluded]
    rcases second with same | second
    · -- No option excludes itself.
      cases Option.some.inj (own.trans same.symm)
      cases flag <;> cases excluded
    · exact free rival isRival second
  · rcases second with own | second
    · have isRival : piece.rival? = some flag := by
        rw [Piece.rival?, ← own, Option.bind_some, Flag.rival?_symm excluded]
      exact free flag isRival first
    · exact compatible flag rival excluded first second

end Compatible

/-- Only the two options for the focus exclude each other. -/
theorem compatible_iff {pieces : List Piece} :
    Compatible pieces ↔
      (some .symbol ∈ pieces.map Piece.place -> some .file ∉ pieces.map Piece.place) := by
  constructor
  · intro compatible
    exact compatible .symbol .file rfl
  · intro notBoth flag rival excluded first second
    cases flag with
    | symbol =>
        cases excluded
        exact notBoth first second
    | file =>
        cases excluded
        exact notBoth second first
    | _ => cases excluded

/-- The state of the second pass after some pieces. -/
structure Progress.Reflects (progress : Progress) (pieces : List Piece) : Prop where
  holds : progress.arguments.Holds pieces
  compatible : Compatible pieces
  placeFree : none ∉ pieces.map Piece.place -> progress.placeUsed = false
  surplus : progress.surplus = []

namespace Progress.Reflects

theorem start : Progress.Reflects {} [] where
  holds := ⟨fun _ member => absurd member List.not_mem_nil, fun place _ => by
    rcases place with _ | flag
    · rfl
    · cases flag <;> rfl⟩
  compatible := fun _ _ _ member => absurd member List.not_mem_nil
  placeFree := fun _ => rfl
  surplus := rfl

/-- The option that a piece excludes was not given exactly if the piece can join those before. -/
theorem free_iff {progress : Progress} {pieces : List Piece} (reflects : progress.Reflects pieces)
    (piece : Piece) :
    (∀ rival, piece.rival? = some rival -> progress.arguments.held (some rival) = none) ↔
      Compatible (piece :: pieces) := by
  constructor
  · intro free
    apply reflects.compatible.cons
    intro rival isRival
    exact (reflects.holds.held_eq_none_iff _).mp (free rival isRival)
  · intro compatible rival isRival
    apply (reflects.holds.held_eq_none_iff _).mpr
    intro given
    rcases Option.bind_eq_some_iff.mp isRival with ⟨flag, own, excluded⟩
    exact compatible flag rival excluded (List.mem_map.mpr ⟨piece, List.mem_cons_self, own⟩)
      (List.mem_cons_of_mem _ given)

/-- After some pieces, one for a new place is taken exactly if it can join them and can be read. -/
theorem enter_eq_ok_iff {progress next : Progress} {pieces : List Piece}
    (reflects : progress.Reflects pieces) {piece : Piece}
    (new : piece.place ∉ pieces.map Piece.place) :
    piece.enter progress = .ok next ↔
      Compatible (piece :: pieces) ∧
        ∃ held, piece.held = .ok held ∧ next = progress.fill piece.place held := by
  have placeFree : piece.place = none -> progress.placeUsed = false := fun isSnapshot =>
    reflects.placeFree (isSnapshot ▸ new)
  rw [Piece.enter_eq_ok_iff placeFree, reflects.free_iff]

/-- Taking a piece leads from the state after some pieces to the state after one piece more. -/
theorem step {progress next : Progress} {pieces : List Piece} (reflects : progress.Reflects pieces)
    {piece : Piece} (new : piece.place ∉ pieces.map Piece.place)
    (entered : piece.enter progress = .ok next) : next.Reflects (piece :: pieces) := by
  rcases (reflects.enter_eq_ok_iff new).mp entered with ⟨compatible, held, read, rfl⟩
  refine ⟨reflects.holds.fill new read, compatible, ?_, reflects.surplus⟩
  intro absent
  rw [List.map_cons, List.mem_cons, not_or] at absent
  have isOption : piece.place.isNone = false := by
    rw [Option.isNone_eq_false_iff, Option.isSome_iff_ne_none]
    exact Ne.symm absent.1
  simp only [Progress.fill, reflects.placeFree absent.2, isOption, Bool.or_self]

/-- In pieces that fill different places, the first one to come fills a new place. -/
theorem new_of_distinct {piece : Piece} {rest seen : List Piece}
    (distinct : (((piece :: rest).reverse ++ seen).map Piece.place).Nodup) :
    piece.place ∉ seen.map Piece.place ∧
      ((rest.reverse ++ piece :: seen).map Piece.place).Nodup := by
  rw [List.reverse_cons, List.append_assoc, List.singleton_append] at distinct
  refine ⟨?_, distinct⟩
  rw [List.map_append] at distinct
  exact (List.nodup_cons.mp (List.Nodup.of_append_right distinct)).1

/-- The state after all pieces.  The pieces that were taken stand before those already seen, the
last one first. -/
theorem run {pieces seen : List Piece} {progress final : Progress}
    (reflects : progress.Reflects seen)
    (distinct : ((pieces.reverse ++ seen).map Piece.place).Nodup)
    (taken : pieces.foldlM Piece.enter progress = .ok final) :
    final.Reflects (pieces.reverse ++ seen) := by
  induction pieces generalizing seen progress with
  | nil =>
      cases taken
      exact reflects
  | cons piece rest inductionHypothesis =>
      rcases new_of_distinct distinct with ⟨new, laterDistinct⟩
      rw [List.foldlM_cons] at taken
      rcases Outcome.bind_eq_ok_iff.mp taken with ⟨next, entered, later⟩
      rw [List.reverse_cons, List.append_assoc, List.singleton_append]
      exact inductionHypothesis (reflects.step new entered) laterDistinct later

/-- If all pieces can be read and none excludes another, all of them are taken. -/
theorem exists_run {pieces seen : List Piece} {progress : Progress}
    (reflects : progress.Reflects seen)
    (distinct : ((pieces.reverse ++ seen).map Piece.place).Nodup)
    (compatible : Compatible (pieces.reverse ++ seen))
    (readable : ∀ piece ∈ pieces, ∃ held, piece.held = .ok held) :
    ∃ final, pieces.foldlM Piece.enter progress = .ok final := by
  induction pieces generalizing seen progress with
  | nil => exact ⟨progress, rfl⟩
  | cons piece rest inductionHypothesis =>
      rcases new_of_distinct distinct with ⟨new, laterDistinct⟩
      rw [List.reverse_cons, List.append_assoc, List.singleton_append] at compatible
      rcases readable piece List.mem_cons_self with ⟨held, read⟩
      have joins : Compatible (piece :: seen) := compatible.mono (List.subset_append_right _ _)
      have entered := (reflects.enter_eq_ok_iff new).mpr ⟨joins, held, read, rfl⟩
      rcases inductionHypothesis (reflects.step new entered) laterDistinct compatible
        (fun other member => readable other (List.mem_cons_of_mem _ member)) with ⟨final, taken⟩
      refine ⟨final, ?_⟩
      rw [List.foldlM_cons, entered]
      exact taken

end Progress.Reflects

/-- The checks at the end ask for a focus and for nothing left over. -/
theorem Progress.finish_eq_ok_iff {progress : Progress} {arguments : Arguments} :
    progress.finish = .ok arguments ↔
      (progress.arguments.symbol ≠ none ∨ progress.arguments.file ≠ none) ∧
      progress.surplus = [] ∧ progress.arguments = arguments := by
  rw [Progress.finish]
  cases progress.arguments.symbol <;> cases progress.arguments.file <;>
    cases progress.surplus <;> simp

/-- There is a focus exactly if one of the pieces gives it. -/
theorem Arguments.Holds.focus_iff {arguments : Arguments} {pieces : List Piece}
    (holds : arguments.Holds pieces) :
    (arguments.symbol ≠ none ∨ arguments.file ≠ none) ↔
      some .symbol ∈ pieces.map Piece.place ∨ some .file ∈ pieces.map Piece.place := by
  have noSymbol : arguments.symbol = none ↔ some .symbol ∉ pieces.map Piece.place :=
    holds.held_eq_none_iff (some .symbol)
  have noFile : arguments.file = none ↔ some .file ∉ pieces.map Piece.place :=
    holds.held_eq_none_iff (some .file)
  rw [Ne, Ne, noSymbol, noFile, not_not, not_not]

/-- The arguments that result from pieces which fill different places hold what the pieces say and
nothing else.  They result if all pieces can be read and exactly one of the options for the focus is
given. -/
theorem parse_written_eq_ok_iff {pieces : List Piece} {arguments : Arguments}
    (distinct : (pieces.map Piece.place).Nodup) :
    parse (pieces.flatMap Piece.written) = .ok arguments ↔
      arguments.Holds pieces ∧
        (some .symbol ∈ pieces.map Piece.place ↔ some .file ∉ pieces.map Piece.place) := by
  have backwards : ((pieces.reverse ++ []).map Piece.place).Nodup := by
    rwa [List.append_nil, List.map_reverse, List.nodup_reverse]
  have order : (pieces.reverse ++ []).Perm pieces := by
    rw [List.append_nil]
    exact pieces.reverse_perm
  simp only [parse, words_written, consume_read, Outcome.bind_eq_ok_iff,
    Progress.finish_eq_ok_iff]
  constructor
  · rintro ⟨final, taken, focus, _, rfl⟩
    have reflects := Progress.Reflects.start.run backwards taken
    have holds := reflects.holds.perm order
    have notBoth := compatible_iff.mp (reflects.compatible.mono order.symm.subset)
    exact ⟨holds, notBoth, (holds.focus_iff.mp focus).resolve_right⟩
  · rintro ⟨holds, oneFocus⟩
    have compatible : Compatible pieces := compatible_iff.mpr oneFocus.mp
    have focus : some .symbol ∈ pieces.map Piece.place ∨ some .file ∈ pieces.map Piece.place :=
      or_iff_not_imp_right.mpr oneFocus.mpr
    have readable : ∀ piece ∈ pieces, ∃ held, piece.held = .ok held := fun piece member =>
      (holds.given piece member).imp fun _ => And.left
    rcases Progress.Reflects.start.exists_run backwards (compatible.mono order.subset) readable with
      ⟨final, taken⟩
    have reflects := Progress.Reflects.start.run backwards taken
    have finalHolds := reflects.holds.perm order
    exact ⟨final, taken, finalHolds.focus_iff.mpr focus, reflects.surplus,
      finalHolds.unique holds⟩

/-- Arguments may come in any order: if pieces that fill different places are accepted, then they
are accepted in every order, with the same result. -/
theorem parse_written_of_perm {pieces reordered : List Piece} {arguments : Arguments}
    (distinct : (pieces.map Piece.place).Nodup) (order : pieces.Perm reordered)
    (accepted : parse (pieces.flatMap Piece.written) = .ok arguments) :
    parse (reordered.flatMap Piece.written) = .ok arguments := by
  have places := order.map Piece.place
  rcases (parse_written_eq_ok_iff distinct).mp accepted with ⟨holds, oneFocus⟩
  apply (parse_written_eq_ok_iff (places.nodup_iff.mp distinct)).mpr
  refine ⟨holds.perm order, ?_⟩
  rwa [← places.mem_iff, ← places.mem_iff]

namespace SnapshotBetween

def depth : Piece := .valued .depth rfl ⟨"3", by decide, by decide⟩ true

def path : Piece := .snapshot ⟨"x.json", by decide, by decide⟩

def symbol : Piece := .valued .symbol rfl ⟨"a b", by decide, by decide⟩ false

/-- The path of the snapshot may stand between options or after them. -/
theorem parse_snapshot_last :
    parse ["--depth=3", "x.json", "--no-color", "--symbol", "a b"] =
        .ok { snapshot := "x.json", symbol := some (.text "a b"), depth := some (.levels 3),
              noColor := true } ∧
      parse ["--no-color", "--symbol", "a b", "--depth=3", "x.json"] =
        .ok { snapshot := "x.json", symbol := some (.text "a b"), depth := some (.levels 3),
              noColor := true } := by
  have between : [depth, path, .noColor, symbol].flatMap Piece.written =
      ["--depth=3", "x.json", "--no-color", "--symbol", "a b"] := by decide
  have last : [.noColor, symbol, depth, path].flatMap Piece.written =
      ["--no-color", "--symbol", "a b", "--depth=3", "x.json"] := by decide
  have order : [depth, path, .noColor, symbol].Perm [.noColor, symbol, depth, path] :=
    @List.perm_append_comm _ [depth, path] [.noColor, symbol]
  have read : depthArgument "3" = .ok (.levels 3) := by decide +kernel
  have accepted : parse ([depth, path, .noColor, symbol].flatMap Piece.written) =
      .ok { snapshot := "x.json", symbol := some (.text "a b"), depth := some (.levels 3),
            noColor := true } := by
    simp only [parse, words_written, consume_read, List.foldlM_cons, depth, Piece.enter,
      Arguments.take, read]
    rfl
  rw [← between, ← last]
  exact ⟨accepted, parse_written_of_perm (by decide) order accepted⟩

end SnapshotBetween

end Command
end RefTree
