/-!
# Blank characters and trimming

`isBlank` is the Unicode property `White_Space`. It holds of the no-break spaces `U+00A0` and
`U+202F` and of `U+0085`, but not of the zero-width characters `U+200B` and `U+FEFF`.
-/
namespace VmHost.Text

/-- The character has the property `White_Space`. -/
def isBlank (c : Char) : Bool :=
  let n := c.toNat
  (0x09 ≤ n && n ≤ 0x0D) || n == 0x20 || n == 0x85 || n == 0xA0 || n == 0x1680 ||
    (0x2000 ≤ n && n ≤ 0x200A) || n == 0x2028 || n == 0x2029 || n == 0x202F || n == 0x205F ||
    n == 0x3000

/-- The text without the blanks at both ends. -/
def trim (cs : List Char) : List Char :=
  ((cs.dropWhile isBlank).reverse.dropWhile isBlank).reverse

/-- The text with the ASCII capitals made small. -/
def lowerAscii (cs : List Char) : List Char := cs.map Char.toLower

end VmHost.Text
