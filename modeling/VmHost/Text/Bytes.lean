/-!
# Byte strings and UTF-8

What the host calls a string (a path, a file name, a value in the environment) is a list of bytes.
`encode` writes characters as UTF-8. `pieces` reads bytes back: valid stretches as characters, and
between them the longest runs of bytes that no valid text could begin with, each run as one piece.
`decode?` accepts exactly the byte strings without such a run.
-/
namespace VmHost

abbrev Bytes := List UInt8

namespace Text

def encode (cs : List Char) : Bytes := cs.flatMap String.utf8EncodeChar

def bytes (s : String) : Bytes := encode s.toList

/-- The byte continues a character: it is of the form `10xxxxxx`. -/
def isContinuation (b : UInt8) : Bool := 0x80 ≤ b && b ≤ 0xBF

/-- The low six bits of a continuation byte. -/
def payload (b : UInt8) : Nat := b.toNat % 64

/-- The second byte is possible after the first one of a character of three or four bytes: no
overlong form, no surrogate, nothing above `U+10FFFF`. -/
def secondFits (first second : UInt8) : Bool :=
  isContinuation second &&
    (first != 0xE0 || 0xA0 ≤ second) && (first != 0xED || second ≤ 0x9F) &&
    (first != 0xF0 || 0x90 ≤ second) && (first != 0xF4 || second ≤ 0x8F)

/-- The start of a byte string: a character, or a number of bytes that belong to none. -/
inductive Start
  | char (c : Char) (size : Nat)
  | broken (size : Nat)
  deriving DecidableEq, Repr

/-- Reads the start of a non-empty byte string. A broken start is as long as it could still have
become a character, and at least one byte. -/
def start (first : UInt8) (rest : Bytes) : Start :=
  if first < 0x80 then .char (Char.ofNat first.toNat) 1
  else if 0xC2 ≤ first && first ≤ 0xDF then
    match rest with
    | b :: _ =>
      if isContinuation b then .char (Char.ofNat ((first.toNat % 32) * 64 + payload b)) 2
      else .broken 1
    | [] => .broken 1
  else if 0xE0 ≤ first && first ≤ 0xEF then
    match rest with
    | b :: more =>
      if secondFits first b then
        match more with
        | c :: _ =>
          if isContinuation c then
            .char (Char.ofNat (((first.toNat % 16) * 64 + payload b) * 64 + payload c)) 3
          else .broken 2
        | [] => .broken 2
      else .broken 1
    | [] => .broken 1
  else if 0xF0 ≤ first && first ≤ 0xF4 then
    match rest with
    | b :: more =>
      if secondFits first b then
        match more with
        | c :: last =>
          if isContinuation c then
            match last with
            | d :: _ =>
              if isContinuation d then
                .char (Char.ofNat
                  ((((first.toNat % 8) * 64 + payload b) * 64 + payload c) * 64 + payload d)) 4
              else .broken 3
            | [] => .broken 3
          else .broken 2
        | [] => .broken 2
      else .broken 1
    | [] => .broken 1
  else .broken 1

/-- A piece of a byte string: one character, or a run of bytes that belong to none. -/
inductive Piece
  | char (c : Char)
  | broken (run : Bytes)
  deriving DecidableEq, Repr

/-- The pieces of a byte string, with at most `fuel` of them. -/
def piecesUpTo : Nat → Bytes → List Piece
  | 0, _ => []
  | _, [] => []
  | fuel + 1, b :: rest =>
    match start b rest with
    | .char c size => .char c :: piecesUpTo fuel ((b :: rest).drop size)
    | .broken size => .broken ((b :: rest).take size) :: piecesUpTo fuel ((b :: rest).drop size)

/-- The pieces of a byte string: there are never more than bytes. -/
def pieces (bs : Bytes) : List Piece := piecesUpTo bs.length bs

/-- The characters of a byte string, if all of it is UTF-8. -/
def decode? (bs : Bytes) : Option (List Char) :=
  (pieces bs).mapM fun
    | .char c => some c
    | .broken _ => none

def isUtf8 (bs : Bytes) : Bool := (decode? bs).isSome

/-- The characters of a byte string, with the replacement character for each broken run. -/
def decodeLossy (bs : Bytes) : List Char :=
  (pieces bs).map fun
    | .char c => c
    | .broken _ => Char.ofNat 0xFFFD

end Text
end VmHost
