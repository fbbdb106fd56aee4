import RefTree.Text.Hex

namespace RefTree
namespace Text
namespace Utf8

/-!
# Strict UTF-8

`decode` turns octets into characters and accepts well-formed UTF-8 only: no overlong forms, no
surrogates, nothing above the last code point.  A failure says which octets are at fault and why.
The octets at fault are the leading octet together with the continuation octets that were still
acceptable, so the octet after them can start a new character.
-/

inductive Reason where
  | invalidStart
  | invalidContinuation
  | unexpectedEnd
  deriving DecidableEq, Repr

/-- The octets at fault: the position of the first, its value, how many there are, and the
reason. -/
structure Defect where
  position : Nat
  octet : UInt8
  count : Nat
  reason : Reason
  deriving DecidableEq, Repr

/-- A continuation octet carries six bits. -/
def isContinuation (octet : UInt8) : Bool :=
  0x80 ≤ octet && octet < 0xC0

/-- The second octet of a three-octet form.  After two of the leading octets part of the range is
excluded, because it would give an overlong form or a surrogate. -/
def isSecondOfThree (lead second : UInt8) : Bool :=
  isContinuation second && !(lead == 0xE0 && second < 0xA0) && !(lead == 0xED && 0xA0 ≤ second)

/-- The second octet of a four-octet form.  After two of the leading octets part of the range is
excluded, because it would give an overlong form or exceed the last code point. -/
def isSecondOfFour (lead second : UInt8) : Bool :=
  isContinuation second && !(lead == 0xF0 && second < 0x90) && !(lead == 0xF4 && 0x90 ≤ second)

/-- Extend a value by the six bits of a continuation octet. -/
def extend (value : Nat) (octet : UInt8) : Nat :=
  value * 64 + (octet.toNat - 0x80)

def decodeFrom (position : Nat) : List UInt8 -> Except Defect (List Char)
  | [] => .ok []
  | lead :: rest =>
      let fail (count : Nat) (reason : Reason) : Except Defect (List Char) :=
        .error ⟨position, lead, count, reason⟩
      if lead < 0x80 then
        (decodeFrom (position + 1) rest).map (Char.ofNat lead.toNat :: ·)
      else if lead < 0xC2 then fail 1 .invalidStart
      else if lead < 0xE0 then
        match rest with
        | [] => fail 1 .unexpectedEnd
        | second :: rest =>
            if isContinuation second then
              (decodeFrom (position + 2) rest).map
                (Char.ofNat (extend (lead.toNat - 0xC0) second) :: ·)
            else fail 1 .invalidContinuation
      else if lead < 0xF0 then
        match rest with
        | [] => fail 1 .unexpectedEnd
        | second :: rest =>
            if !isSecondOfThree lead second then fail 1 .invalidContinuation
            else
              match rest with
              | [] => fail 2 .unexpectedEnd
              | third :: rest =>
                  if isContinuation third then
                    (decodeFrom (position + 3) rest).map
                      (Char.ofNat (extend (extend (lead.toNat - 0xE0) second) third) :: ·)
                  else fail 2 .invalidContinuation
      else if lead < 0xF5 then
        match rest with
        | [] => fail 1 .unexpectedEnd
        | second :: rest =>
            if !isSecondOfFour lead second then fail 1 .invalidContinuation
            else
              match rest with
              | [] => fail 2 .unexpectedEnd
              | third :: rest =>
                  if !isContinuation third then fail 2 .invalidContinuation
                  else
                    match rest with
                    | [] => fail 3 .unexpectedEnd
                    | fourth :: rest =>
                        if isContinuation fourth then
                          (decodeFrom (position + 4) rest).map
                            (Char.ofNat (extend (extend (extend (lead.toNat - 0xF0) second) third)
                              fourth) :: ·)
                        else fail 3 .invalidContinuation
      else fail 1 .invalidStart

def decode (octets : List UInt8) : Except Defect (List Char) :=
  decodeFrom 0 octets

/-- A continuation octet with the last six bits of a value. -/
def continuation (value : Nat) : UInt8 :=
  (0x80 + value % 64).toUInt8

def encodeChar (c : Char) : List UInt8 :=
  let code := c.toNat
  if code < 0x80 then [code.toUInt8]
  else if code < 0x800 then [(0xC0 + code / 64).toUInt8, continuation code]
  else if code < 0x10000 then
    [(0xE0 + code / 4096).toUInt8, continuation (code / 64), continuation code]
  else
    [(0xF0 + code / 262144).toUInt8, continuation (code / 4096), continuation (code / 64),
      continuation code]

def encode (chars : List Char) : List UInt8 :=
  chars.flatMap encodeChar

/-- The characters of octets that may not be UTF-8, with every octet at fault named by its value.
Decoding goes on after the octets at fault. -/
def decodeShown (octets : List UInt8) : List Char :=
  match decode octets with
  | .ok chars => chars
  | .error defect =>
      let good := match decode (octets.take defect.position) with
        | .ok chars => chars
        | .error _ => []
      let bad := (octets.drop defect.position).take (defect.count - 1 + 1)
      let rest := octets.drop (defect.position + (defect.count - 1) + 1)
      if rest.length < octets.length then
        good ++ bad.flatMap (fun octet => '\\' :: 'x' :: hexDigits 2 octet.toNat) ++
          decodeShown rest
      else good
termination_by octets.length

end Utf8

/-- Write every line end as a single line feed: a carriage return becomes one, together with a
line feed that follows it. -/
def unifyLineEnds : List Char -> List Char
  | [] => []
  | '\r' :: '\n' :: rest => '\n' :: unifyLineEnds rest
  | c :: rest => (if c = '\r' then '\n' else c) :: unifyLineEnds rest

end Text
end RefTree
