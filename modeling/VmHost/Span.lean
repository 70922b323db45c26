import VmHost.Text.Digits

/-!
# Spans of time

A span is a number of seconds and of nanoseconds below one second. It is written in the largest of
the units `s`, `ms`, `µs`, `ns` that gives a nonzero whole part, with the exact fraction and no
trailing zero.
-/
namespace VmHost

structure Span where
  secs : UInt64
  nanos : Nat
  nanos_lt : nanos < 1000000000 := by decide
  deriving DecidableEq, Repr

namespace Span

/-- Seconds and nanoseconds, of which every whole second is carried to the seconds. -/
def ofParts (secs : UInt64) (nanos : Nat) : Span where
  secs := secs + (nanos / 1000000000).toUInt64
  nanos := nanos % 1000000000
  nanos_lt := Nat.mod_lt _ (by decide)

def ofMillis (ms : UInt64) : Span where
  secs := ms / 1000
  nanos := ms.toNat % 1000 * 1000000
  nanos_lt := by have := Nat.mod_lt ms.toNat (show 1000 > 0 by decide); omega

def isZero (s : Span) : Bool := s.secs == 0 && s.nanos == 0

def toNanos (s : Span) : Nat := s.secs.toNat * 1000000000 + s.nanos

/-- The span in whole milliseconds, rounded up. -/
def ceilMillis (s : Span) : Nat := (s.toNanos + 999999) / 1000000

/-- The digits of a fraction `part / 10 ^ width`, without trailing zeros. -/
def fraction (width part : Nat) : List Char :=
  let digits := Text.decimal part
  let padded := List.replicate (width - digits.length) '0' ++ digits
  (padded.reverse.dropWhile (· = '0')).reverse

/-- A whole part and a fraction `part / 10 ^ width`, with a point only if the fraction is not
zero. -/
def fixedPoint (whole width part : Nat) : List Char :=
  if part = 0 then Text.decimal whole else Text.decimal whole ++ '.' :: fraction width part

def text (s : Span) : String :=
  if s.secs ≠ 0 then String.ofList (fixedPoint s.secs.toNat 9 s.nanos) ++ "s"
  else if 1000000 ≤ s.nanos then
    String.ofList (fixedPoint (s.nanos / 1000000) 6 (s.nanos % 1000000)) ++ "ms"
  else if 1000 ≤ s.nanos then
    String.ofList (fixedPoint (s.nanos / 1000) 3 (s.nanos % 1000)) ++ "µs"
  else String.ofList (Text.decimal s.nanos) ++ "ns"

end Span
end VmHost
