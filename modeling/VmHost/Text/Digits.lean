/-!
# Numbers as digits

Decimal digits without leading zeros, hexadecimal digits without leading zeros or of a fixed
width, and the form `0x` with sixteen digits in which a 64-bit word is written.
-/
namespace VmHost.Text

/-- The decimal digits of a number, without leading zeros. -/
def decimal (n : Nat) : List Char := Nat.toDigits 10 n

/-- An integer: a minus sign if it is negative, then the digits of its size. -/
def signedDecimal (i : Int) : List Char :=
  if i < 0 then '-' :: decimal i.natAbs else decimal i.natAbs

/-- The hexadecimal digits of a number in small letters, without leading zeros. -/
def hex (n : Nat) : List Char := Nat.toDigits 16 n

/-- One hexadecimal digit in small letters. -/
def hexDigit (n : Nat) : Char := Nat.digitChar (n % 16)

/-- The last `width` hexadecimal digits of a number, leading zeros included. -/
def hexFixed : Nat → Nat → List Char
  | 0, _ => []
  | width + 1, n => hexFixed width (n / 16) ++ [hexDigit n]

/-- A word as `0x` and sixteen hexadecimal digits. -/
def hexWord (w : UInt64) : List Char := '0' :: 'x' :: hexFixed 16 w.toNat

theorem length_hexFixed (width n : Nat) : (hexFixed width n).length = width := by
  induction width generalizing n with
  | zero => rfl
  | succ w ih => simp [hexFixed, ih]

theorem length_hexWord (w : UInt64) : (hexWord w).length = 18 := by
  simp [hexWord, length_hexFixed]

end VmHost.Text
