import RefTree.Text.Blank
import RefTree.Text.DecimalDigit
import RefTree.Text.Word

namespace RefTree
namespace Highlight

/-!
# Colouring source values

The value of a reference is a line of C++ and is coloured token by token.  A token is the longest
piece that one of six rules takes at the current place, tried in a fixed order: blanks, texts,
numbers, words, punctuation, and single characters that fit nowhere.  Two kinds of lines start
differently.  A line whose first visible character is a number sign is a directive and has rules
of its own, and a label at the start of a line is never taken for a keyword.  But for a byte order
mark at its start, nothing of the line is dropped, and nothing but colour is added.

The rules cover a part of the language only.  They are the style that the command prints with, while
whatever is said about listings holds for every style.
-/

inductive Tint where
  | none
  | gray
  | cyan
  | blue
  | yellow
  | className
  | invalid
  deriving DecidableEq, Repr

/-- A token: its colour and its characters. -/
structure Token where
  tint : Tint
  chars : List Char
  deriving DecidableEq, Repr

/-- The token of some characters, unless there are none. -/
def tokenOf (tint : Tint) (chars : List Char) : List Token :=
  if chars.isEmpty then [] else [⟨tint, chars⟩]

/-! ## Patterns

A pattern says how many characters it takes at the start of a list, or that it does not match.
Every pattern below is deterministic, so the first way to match is the only one.
-/

/-- A pattern for the start of a list of characters. -/
abbrev Pattern := List Char -> Option Nat

def one (allowed : Char -> Bool) : Pattern
  | c :: _ => if allowed c then some 1 else none
  | [] => none

/-- One or more characters of a class, as many as there are. -/
def many (allowed : Char -> Bool) : Pattern := fun chars =>
  let count := (chars.takeWhile allowed).length
  if count = 0 then none else some count

def andThen (first second : Pattern) : Pattern := fun chars =>
  match first chars with
  | some count => (second (chars.drop count)).map (count + ·)
  | none => none

def orElse (first second : Pattern) : Pattern := fun chars =>
  match first chars with
  | some count => some count
  | none => second chars

/-- A pattern that may be missing. -/
def optional (pattern : Pattern) : Pattern :=
  orElse pattern fun _ => some 0

def oneOf (allowed : List Char) : Pattern :=
  one allowed.contains

def inOrder (patterns : List Pattern) : Pattern :=
  patterns.foldr andThen fun _ => some 0

def firstOf (patterns : List Pattern) : Pattern :=
  patterns.foldr orElse fun _ => none

/-- The characters of a list, one after another. -/
def exactly (wanted : List Char) : Pattern := fun chars =>
  if wanted.isPrefixOf chars then some wanted.length else none

/-! ## Numbers -/

def digits : Pattern :=
  many Text.isDecimalDigit

/-- Decide whether a character is a hexadecimal digit. -/
def isHexDigit (c : Char) : Bool :=
  ('0' ≤ c && c ≤ '9') || ('a' ≤ c && c ≤ 'f') || ('A' ≤ c && c ≤ 'F')

/-- A minus sign that may be missing. -/
def sign : Pattern :=
  optional (oneOf ['-'])

def floatSuffix : Pattern :=
  oneOf ['f', 'F', 'l', 'L']

/-- The suffix of an integer, which may be missing. -/
def integerSuffix : Pattern :=
  let u := oneOf ['u', 'U']
  let z := oneOf ['z', 'Z']
  let l := oneOf ['l', 'L']
  optional (firstOf
    [inOrder [optional u, z],
      inOrder [z, u],
      inOrder [u, optional l, optional l],
      inOrder [l, optional l, optional u]])

/-- A number, by the first of eight forms that matches.  A minus sign belongs to the number, but
not where the number is a hexadecimal one with an exponent, or a whole one with the suffix of a
floating-point number. -/
def number : Pattern :=
  let point := oneOf ['.']
  let bare := oneOf ['0']
  let hex := many isHexDigit
  firstOf
    [inOrder [bare, oneOf ['x', 'X'],
        firstOf [inOrder [hex, point, hex], inOrder [point, hex], hex],
        oneOf ['p', 'P'], optional (oneOf ['+', '-']), hex, optional (oneOf ['l', 'L'])],
      inOrder [sign,
        firstOf [inOrder [digits, point, digits], inOrder [point, digits], digits],
        oneOf ['e', 'E'], optional (oneOf ['+', '-']), digits, optional floatSuffix],
      inOrder [sign,
        orElse (inOrder [digits, point, optional digits]) (inOrder [point, digits]),
        optional floatSuffix],
      inOrder [digits, floatSuffix],
      inOrder [sign, bare, oneOf ['x', 'X'], hex, integerSuffix],
      inOrder [sign, bare, oneOf ['b', 'B'], many ['0', '1'].contains, integerSuffix],
      inOrder [sign, bare, many fun c => '0' ≤ c && c ≤ '7', integerSuffix],
      inOrder [sign, digits, integerSuffix]]

/-! ## Words -/

/-- The words after which the name of a class is expected. -/
def classWords : List String :=
  ["struct", "union", "class", "typename"]

/-- The other keywords. -/
def keywords : List String :=
  ["asm", "auto", "break", "const", "constexpr", "continue", "default", "do", "else", "extern",
    "for", "goto", "if", "register", "return", "sizeof", "static", "switch", "typedef",
    "volatile", "while", "thread_local", "alignas", "alignof", "static_assert", "catch",
    "const_cast", "delete", "dynamic_cast", "explicit", "export", "friend", "mutable", "new",
    "operator", "private", "protected", "public", "reinterpret_cast", "static_cast", "template",
    "this", "throw", "try", "typeid", "using", "virtual", "decltype", "noexcept", "override",
    "final", "and", "not", "or", "xor", "inline"]

def builtins : List String :=
  ["bool", "int", "long", "float", "short", "double", "char", "unsigned", "signed", "void",
    "size_t", "ssize_t", "wchar_t", "ptrdiff_t", "va_list", "FILE", "int8_t", "int16_t",
    "int32_t", "int64_t", "uint8_t", "uint16_t", "uint32_t", "uint64_t", "intptr_t",
    "uintptr_t", "char16_t", "char32_t", "pid_t", "time_t", "byte", "true", "false", "NULL",
    "nullptr"]

/-- What was met before the current place: a word that announces the name of a class, such a word
and blanks after it, or neither. -/
inductive Context where
  | neutral
  | classWord
  | className
  deriving DecidableEq, Repr

def wordTint (context : Context) (word : String) : Tint × Context :=
  if context = .className then (.className, .neutral)
  else if classWords.contains word then (.blue, .classWord)
  else if keywords.contains word then (.blue, .neutral)
  else if builtins.contains word then (.cyan, .neutral)
  else (.none, .neutral)

def punctuation : List Char :=
  "~!%^&*+=|?:<>/-()[],.\x7d;".toList

/-! ## Plain lines -/

/-- The tokens that start a list of characters whose first is given, the context after them, and
how many characters of the rest they take. -/
def step (context : Context) (first : Char) (rest : List Char) : List Token × Context × Nat :=
  if Text.isBlank first then
    let run := rest.takeWhile Text.isBlank
    let next := if context = .classWord then .className else .neutral
    ([⟨.gray, first :: run⟩], next, run.length)
  else if first = '"' then
    let body := rest.takeWhile (· != '"')
    let closing := (rest.drop body.length).take 1
    let parts := [[first], body, closing].filter fun part => !part.isEmpty
    (parts.map (⟨.yellow, ·⟩), .neutral, body.length + closing.length)
  else
    match number (first :: rest) with
    | some width => ([⟨.blue, (first :: rest).take width⟩], .neutral, width - 1)
    | none =>
        if Text.isWordChar first then
          let word := first :: rest.takeWhile Text.isWordChar
          let (tint, next) := wordTint context (String.ofList word)
          ([⟨tint, word⟩], next, word.length - 1)
        else
          let tint := if punctuation.contains first then .none else .invalid
          ([⟨tint, [first]⟩], .neutral, 0)

/-- The tokens of a line that is no directive. -/
def tokens (context : Context) : List Char -> List Token
  | [] => []
  | c :: rest =>
      let (parts, next, width) := step context c rest
      parts ++ tokens next (rest.drop width)
termination_by chars => chars.length
decreasing_by exact Nat.lt_succ_of_le (List.length_drop ▸ Nat.sub_le _ _)

/-! ## Directives -/

/-- The name of an included file, in quotes or in angle brackets. -/
def includedFile : Pattern :=
  orElse (inOrder [oneOf ['"'], many (· != '"'), oneOf ['"']])
    (inOrder [oneOf ['<'], many (· != '>'), oneOf ['>']])

/-- The tokens of an inclusion: the word for it, the name of the file, and what follows. -/
def inclusion? (chars : List Char) : Option (List Token) :=
  let word := "include".toList
  let margin := chars.takeWhile Text.isBlank
  let atWord := chars.drop margin.length
  let afterWord := atWord.drop word.length
  let gap := afterWord.takeWhile Text.isBlank
  let atName := afterWord.drop gap.length
  match exactly word atWord, includedFile atName with
  | some _, some width =>
      let afterName := atName.drop width
      let space := afterName.takeWhile Text.isBlank
      some (tokenOf .gray margin ++ tokenOf .cyan word ++ tokenOf .gray gap ++
        tokenOf .gray (atName.take width) ++ tokenOf .gray space ++
        tokenOf .gray (afterName.drop space.length))
  | _, _ => none

/-- The tokens of a directive after its number sign.  A slash stands by itself, and an inclusion
is recognised wherever a token may start. -/
def directiveTokens : List Char -> List Token
  | [] => []
  | c :: rest =>
      match inclusion? (c :: rest) with
      | some parts => parts
      | none =>
          let run := if c = '/' then [] else rest.takeWhile (· != '/')
          ⟨.cyan, c :: run⟩ :: directiveTokens (rest.drop run.length)
termination_by chars => chars.length
decreasing_by exact Nat.lt_succ_of_le (List.length_drop ▸ Nat.sub_le _ _)

/-- What follows the number sign of a directive that switches off the lines below it. -/
def disabling : Pattern :=
  inOrder [exactly "if".toList, many Text.isBlank, oneOf ['0']]

/-- The tokens of a directive, given what follows its number sign.  After a directive that
switches lines off nothing may follow on the same line. -/
def directive (chars : List Char) : List Token :=
  match disabling chars with
  | some width =>
      ⟨.cyan, '#' :: chars.take width⟩ :: (chars.drop width).map fun c => ⟨.invalid, [c]⟩
  | none => ⟨.cyan, ['#']⟩ :: directiveTokens chars

/-! ## Lines -/

/-- The words that are keywords also before a colon. -/
def colonWords : List String :=
  ["public", "private", "protected", "default"]

/-- The tokens of a label at the start of a line, and the rest of the line.  A label is a word
before a single colon. -/
def label? (chars : List Char) : Option (List Token × List Char) :=
  let margin := chars.takeWhile fun c => c == ' ' || c == '\t'
  let atWord := chars.drop margin.length
  let word := atWord.takeWhile Text.isWordChar
  let afterWord := atWord.drop word.length
  let gap := afterWord.takeWhile Text.isBlank
  let isName := !word.isEmpty && !(word.head?.any Text.isDecimalDigit) &&
    !colonWords.contains (String.ofList word)
  match afterWord.drop gap.length with
  | ':' :: rest =>
      if isName && rest.head? != some ':' then
        some (tokenOf .gray margin ++ tokenOf .none word ++ tokenOf .gray gap ++
          tokenOf .none [':'], rest)
      else none
  | _ => none

/-- A line without the byte order mark that it may start with. -/
def withoutMark : List Char -> List Char
  | [] => []
  | c :: rest => if c.toNat = 0xFEFF then rest else c :: rest

def lineTokens (chars : List Char) : List Token :=
  let margin := chars.takeWhile Text.isBlank
  match chars.drop margin.length with
  | '#' :: rest => tokenOf .gray margin ++ directive rest
  | _ =>
      match label? chars with
      | some (parts, rest) => parts ++ tokens .neutral rest
      | none => tokens .neutral chars

/-! ## Escape sequences -/

def Tint.code : Tint -> String
  | .none => ""
  | .gray => "\x1b[37m"
  | .cyan => "\x1b[36m"
  | .blue => "\x1b[34m"
  | .yellow => "\x1b[33m"
  | .className => "\x1b[04m\x1b[32m"
  | .invalid => "\x1b[04m\x1b[91m"

def endCode : String := "\x1b[39;49;00m"

/-- Decide whether a character ends a line of output. -/
def endsLine (c : Char) : Bool :=
  [0x0B, 0x0C, 0x1C, 0x1D, 0x1E, 0x85, 0x2028, 0x2029].contains c.toNat

/-- Cut characters after each one that ends a line. -/
def cutLines : List Char -> List (List Char)
  | [] => []
  | c :: rest =>
      if endsLine c then [c] :: cutLines rest
      else
        match cutLines rest with
        | line :: lines => (c :: line) :: lines
        | [] => [[c]]

/-- A token with its colour, which is set anew on each line. -/
def Token.painted (token : Token) : String :=
  if token.tint = .none then String.ofList token.chars
  else
    String.join ((cutLines token.chars).map fun line =>
      token.tint.code ++ String.ofList line ++ endCode)

end Highlight

def highlighted (value : String) : String :=
  let tokens := Highlight.lineTokens (Highlight.withoutMark value.toList)
  String.join (tokens.map Highlight.Token.painted)

end RefTree
