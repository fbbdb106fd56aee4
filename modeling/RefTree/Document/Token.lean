import RefTree.Document.Value
import RefTree.Number.Integer
import RefTree.Text.Hex

namespace RefTree
namespace Document

open Number (Double)

/-!
# The tokens of a written document

A written document is a sequence of tokens with blanks between them.  Tokens do not depend on
their surroundings, and each is as long as it can be, so `tokens` needs no knowledge of the
grammar.  A piece of text that is no token ends the sequence: whatever the grammar expected there,
reading stops at it.  What such a piece would be reported as is kept in the token, because the
grammar reports it only where a value or a name was allowed.
-/

inductive Malformation where
  | byteOrderMark
  | expectingValue
  | expectingName
  | expectingColon
  | expectingComma
  | extraData
  | unterminatedText
  | controlCharacter
  | invalidEscape
  | invalidUnicodeEscape
  deriving DecidableEq, Repr

/-- Why a document cannot be read: it is malformed at a position, or it holds an integer of too
many digits. -/
inductive ReadFault where
  | malformed (what : Malformation) (position : Nat)
  | integerTooLong (digits : Nat)
  deriving DecidableEq, Repr

inductive Token where
  | openObject
  | closeObject
  | openList
  | closeList
  | colon
  | comma
  | scalar (value : Value)
  | text (value : String)
  | brokenText (fault : ReadFault)
  | brokenNumber (fault : ReadFault)
  | other

/-- A token with the position of its first character. -/
structure Located where
  position : Nat
  token : Token

def isSpacing (c : Char) : Bool :=
  c == ' ' || c == '\t' || c == '\n' || c == '\r'

/-! ## Texts -/

def shortEscape? : Char -> Option Char
  | '"' => some '"'
  | '\\' => some '\\'
  | '/' => some '/'
  | 'b' => some (Char.ofNat 0x08)
  | 'f' => some (Char.ofNat 0x0C)
  | 'n' => some '\n'
  | 'r' => some '\r'
  | 't' => some '\t'
  | _ => none

/-- Decide whether a unit is the first half of a surrogate pair. -/
def isHighSurrogate (unit : Nat) : Bool :=
  0xD800 ≤ unit && unit < 0xDC00

/-- Decide whether a unit is the second half of a surrogate pair. -/
def isLowSurrogate (unit : Nat) : Bool :=
  0xDC00 ≤ unit && unit < 0xE000

/-- The character that a surrogate pair stands for. -/
def joinSurrogates (high low : Nat) : Char :=
  Char.ofNat (0x10000 + (high - 0xD800) * 0x400 + (low - 0xDC00))

/-- The character of a single unit.  Half of a pair standing alone is no character and is read as
the replacement character, so texts that differ only in such halves are not told apart. -/
def unitChar (unit : Nat) : Char :=
  if isHighSurrogate unit || isLowSurrogate unit then Char.ofNat 0xFFFD else Char.ofNat unit

/-- The characters of a text together with the number of characters that it was written with. -/
structure TextScan where
  chars : List Char
  width : Nat

/-- Put a character in front of a scanned text, where it was written with `width` characters. -/
def TextScan.cons (c : Char) (width : Nat) (scan : TextScan) : TextScan :=
  ⟨c :: scan.chars, width + scan.width⟩

/-- Scan a text after its opening mark.  `start` is the position of that mark and `position` that
of the next character.  An escape by code point must have at least one character after it, since
the closing mark is still to come. -/
def scanText (start position : Nat) : List Char -> Except ReadFault TextScan
  | [] => .error (.malformed .unterminatedText start)
  | '"' :: _ => .ok ⟨[], 1⟩
  | '\\' :: rest =>
      match rest with
      | [] => .error (.malformed .unterminatedText start)
      | 'u' :: rest =>
          let failure (offset : Nat) : Except ReadFault TextScan :=
            .error (.malformed .invalidUnicodeEscape (position + offset))
          match rest with
          | a :: b :: c :: d :: after :: rest =>
              match Text.hexNumber? 0 [a, b, c, d] with
              | none => failure 1
              | some unit =>
                  if isHighSurrogate unit then
                    match after, rest with
                    | '\\', 'u' :: e :: f :: g :: h :: last :: tail =>
                        match Text.hexNumber? 0 [e, f, g, h] with
                        | none => failure 7
                        | some second =>
                            if isLowSurrogate second then
                              (scanText start (position + 12) (last :: tail)).map
                                (TextScan.cons (joinSurrogates unit second) 12)
                            else
                              (scanText start (position + 6)
                                ('\\' :: 'u' :: e :: f :: g :: h :: last :: tail)).map
                                (TextScan.cons (unitChar unit) 6)
                    | after, rest =>
                        (scanText start (position + 6) (after :: rest)).map
                          (TextScan.cons (unitChar unit) 6)
                  else
                    (scanText start (position + 6) (after :: rest)).map
                      (TextScan.cons (unitChar unit) 6)
          | _ => failure 1
      | c :: rest =>
          match shortEscape? c with
          | some meant =>
              (scanText start (position + 2) rest).map (TextScan.cons meant 2)
          | none => .error (.malformed .invalidEscape position)
  | c :: rest =>
      if c.toNat < 0x20 then .error (.malformed .controlCharacter position)
      else (scanText start (position + 1) rest).map (TextScan.cons c 1)
termination_by chars => chars.length

/-! ## Numbers -/

structure NumberScan where
  negative : Bool
  whole : List Char
  fraction : List Char
  exponent : Option (Bool × List Char)
  width : Nat

/-- Decide whether a character is one of the ten digits that numbers are written with. -/
def isDigit (c : Char) : Bool :=
  '0' ≤ c && c ≤ '9'

/-- The whole part of a number: a single zero, or digits that start with another one. -/
def scanWhole : List Char -> List Char
  | '0' :: _ => ['0']
  | chars => chars.takeWhile isDigit

/-- The digits after a decimal point, which must follow it directly. -/
def scanFraction : List Char -> List Char
  | '.' :: rest => rest.takeWhile isDigit
  | _ => []

/-- The sign and digits of an exponent, together with the width of mark and sign. -/
def scanExponent : List Char -> Option (Bool × List Char × Nat)
  | mark :: rest =>
      if mark = 'e' || mark = 'E' then
        let (negative, digits, width) : Bool × List Char × Nat :=
          match rest with
          | '-' :: rest => (true, rest.takeWhile isDigit, 2)
          | '+' :: rest => (false, rest.takeWhile isDigit, 2)
          | rest => (false, rest.takeWhile isDigit, 1)
        if digits.isEmpty then none else some (negative, digits, width)
      else none
  | [] => none

/-- Scan a number.  Each optional part is taken if it is complete and left alone otherwise. -/
def scanNumber? (chars : List Char) : Option NumberScan :=
  let (negative, unsigned) : Bool × List Char :=
    match chars with
    | '-' :: rest => (true, rest)
    | _ => (false, chars)
  let whole := scanWhole unsigned
  if whole.isEmpty then none
  else
    let afterWhole := unsigned.drop whole.length
    let fraction := scanFraction afterWhole
    let fractionWidth := if fraction.isEmpty then 0 else fraction.length + 1
    let exponent := scanExponent (afterWhole.drop fractionWidth)
    let exponentWidth := match exponent with
      | some (_, digits, width) => digits.length + width
      | none => 0
    some
      { negative
        whole
        fraction
        exponent := exponent.map fun (negative, digits, _) => (negative, digits)
        width := (if negative then 1 else 0) + whole.length + fractionWidth + exponentWidth }

def digitsNumber (digits : List Char) : Nat :=
  Nat.ofDigitChars 10 digits 0

/-- The value of a scanned number: an integer if it has neither fraction nor exponent, and the
nearest double otherwise. -/
def NumberScan.token (scan : NumberScan) : Token :=
  if scan.fraction.isEmpty && scan.exponent.isNone then
    if Number.maxDigits < scan.whole.length then
      .brokenNumber (.integerTooLong scan.whole.length)
    else
      let size : Int := digitsNumber scan.whole
      .scalar (.int (if scan.negative then -size else size))
  else
    let power : Int := match scan.exponent with
      | some (true, digits) => -(digitsNumber digits : Int)
      | some (false, digits) => digitsNumber digits
      | none => 0
    .scalar (.double (Double.ofDecimal scan.negative
      (digitsNumber (scan.whole ++ scan.fraction)) (power - scan.fraction.length)))

/-! ## Sequences of tokens -/

/-- The named scalars and their spellings. -/
def namedScalars : List (List Char × Value) :=
  [("null".toList, .null), ("true".toList, .bool true), ("false".toList, .bool false),
    ("NaN".toList, .double .nan), ("Infinity".toList, .double (.infinite false)),
    ("-Infinity".toList, .double (.infinite true))]

def punctuation? : Char -> Option Token
  | '{' => some .openObject
  | '}' => some .closeObject
  | '[' => some .openList
  | ']' => some .closeList
  | ':' => some .colon
  | ',' => some .comma
  | _ => none

/-- Scan the token that starts with a character at a position.  The number says how many
characters of the rest belong to it. -/
def scanToken (position : Nat) (first : Char) (rest : List Char) : Token × Nat :=
  match punctuation? first with
  | some token => (token, 0)
  | none =>
      if first = '"' then
        match scanText position (position + 1) rest with
        | .ok scan => (.text (String.ofList scan.chars), scan.width)
        | .error fault => (.brokenText fault, 0)
      else
        match namedScalars.find? fun named => named.1.isPrefixOf (first :: rest) with
        | some (name, value) => (.scalar value, name.length - 1)
        | none =>
            match scanNumber? (first :: rest) with
            | some scan => (scan.token, scan.width - 1)
            | none => (.other, 0)

/-- Decide whether reading can go on after a token. -/
def Token.isWhole : Token -> Bool
  | .brokenText _ => false
  | .brokenNumber _ => false
  | .other => false
  | _ => true

/-- The tokens of a text, up to and including the first piece that is no token. -/
def tokens (position : Nat) : List Char -> List Located
  | [] => []
  | c :: rest =>
      if isSpacing c then tokens (position + 1) rest
      else
        let (token, width) := scanToken position c rest
        ⟨position, token⟩ ::
          if token.isWhole then tokens (position + 1 + width) (rest.drop width) else []
termination_by chars => chars.length
decreasing_by
  · exact Nat.lt_succ_self _
  · exact Nat.lt_succ_of_le (List.length_drop ▸ Nat.sub_le _ _)

end Document
end RefTree
