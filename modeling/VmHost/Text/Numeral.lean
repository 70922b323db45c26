import VmHost.Number.Power
import VmHost.Text.Blank

/-!
# Reading integers

An integer is written with ASCII digits, at least one, after an optional plus sign; where negative
numbers are allowed, a minus sign may stand instead. No blank, underscore or other sign is part of
it, and the value has to lie in the range asked for.
-/
namespace VmHost.Text

/-- The closed range of an integer type. -/
structure IntRange where
  lo : Int
  hi : Int
  lo_le_hi : lo ≤ hi := by decide
  deriving DecidableEq, Repr

/-- Unsigned integers of `bits` bits. -/
def IntRange.unsigned (bits : Nat) : IntRange where
  lo := 0
  hi := (Number.twoPow bits : Int) - 1
  lo_le_hi := by have := Number.twoPow_pos bits; omega

/-- Signed integers of `bits + 1` bits, in two's complement. -/
def IntRange.signed (bits : Nat) : IntRange where
  lo := -(Number.twoPow bits : Int)
  hi := (Number.twoPow bits : Int) - 1
  lo_le_hi := by have := Number.twoPow_pos bits; omega

/-- The value of ASCII digits, most significant first; `none` for an empty text or another
character. -/
def natOf? (cs : List Char) : Option Nat :=
  if cs.isEmpty then none
  else cs.foldlM (fun n c => if c.isDigit then some (n * 10 + (c.toNat - '0'.toNat)) else none) 0

/-- The integer that a text writes, if it lies in the range. -/
def intOf? (range : IntRange) (cs : List Char) : Option Int := do
  let value ← match cs with
    | '+' :: ds => (natOf? ds).map Int.ofNat
    | '-' :: ds => if range.lo < 0 then (natOf? ds).map fun n => -Int.ofNat n else none
    | ds => (natOf? ds).map Int.ofNat
  if range.lo ≤ value ∧ value ≤ range.hi then some value else none

end VmHost.Text
