import VmHost.Text.Bytes
import VmHost.Text.Digits
import VmHost.Text.Printable

/-!
# Quoted text

A text between double quotes. The quote, the backslash, line feed, carriage return, tab and NUL
are written with a backslash; a character that does not show as itself is written by its code point
in hexadecimal between braces. In a quoted byte string, a byte that belongs to no character is
written as `\x` and two capital hexadecimal digits.
-/
namespace VmHost.Text

def quoteChar (c : Char) : List Char :=
  if c = '"' then ['\\', '"']
  else if c = '\\' then ['\\', '\\']
  else if c = '\n' then ['\\', 'n']
  else if c = '\r' then ['\\', 'r']
  else if c = '\t' then ['\\', 't']
  else if c.toNat = 0 then ['\\', '0']
  else if isPrintable c then [c]
  else ['\\', 'u', '\x7b'] ++ hex c.toNat ++ ['\x7d']

def quote (cs : List Char) : List Char := '"' :: cs.flatMap quoteChar ++ ['"']

/-- A byte that belongs to no character, between quotes. -/
def quoteByte (b : UInt8) : List Char :=
  '\\' :: 'x' :: (hexFixed 2 b.toNat).map Char.toUpper

def quoteBytes (bs : Bytes) : List Char :=
  let body := (pieces bs).flatMap fun
    | .char c => quoteChar c
    | .broken run => run.flatMap quoteByte
  '"' :: body ++ ['"']

end VmHost.Text
