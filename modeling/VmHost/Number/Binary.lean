import VmHost.Number.Power

/-!
# Binary floating-point numbers as bit patterns

A format has an exponent field and a fraction field of fixed widths. A bit pattern is a signed
number `m · 2 ^ e`, an infinity or a NaN. `Format.round` turns an exact value `m · 2 ^ e` into the
nearest bit pattern, of two equally near ones the even one. A sum or product of two patterns is the
rounded exact one; a NaN operand is passed on with its quiet bit set, the first one of two, and the
sum of opposite infinities, like the product of an infinity and zero, is the negative NaN with
nothing but the quiet bit.
-/
namespace VmHost.Number

/-- The widths of the exponent and fraction fields. -/
structure Format where
  exponentBits : Nat
  fractionBits : Nat
  deriving DecidableEq, Repr

/-- A bit pattern, taken apart. -/
inductive Datum
  | nan (negative : Bool) (fraction : Nat)
  | infinite (negative : Bool)
  /-- The number `± m · 2 ^ e`. -/
  | finite (negative : Bool) (m : Nat) (e : Int)
  deriving DecidableEq, Repr

namespace Format

def single : Format := ⟨8, 23⟩

def double : Format := ⟨11, 52⟩

variable (f : Format)

/-- The largest exponent field, which marks infinities and NaNs. -/
def topField : Nat := twoPow f.exponentBits - 1

/-- The exponent of the last fraction bit of the smallest numbers. -/
def lowExponent : Int := 2 - twoPow (f.exponentBits - 1) - f.fractionBits

/-- The fraction bit that marks a quiet NaN. -/
def quietBit : Nat := twoPow (f.fractionBits - 1)

/-- A bit pattern from its three fields. -/
def pattern (negative : Bool) (field fraction : Nat) : Nat :=
  ((if negative then twoPow f.exponentBits else 0) + field) * twoPow f.fractionBits + fraction

/-- Takes a bit pattern apart. -/
def datum (bits : Nat) : Datum :=
  let fraction := bits % twoPow f.fractionBits
  let field := bits / twoPow f.fractionBits % twoPow f.exponentBits
  let negative := bits / twoPow (f.fractionBits + f.exponentBits) % 2 = 1
  if field = f.topField then
    if fraction = 0 then .infinite negative else .nan negative fraction
  else if field = 0 then .finite negative fraction f.lowExponent
  else .finite negative (twoPow f.fractionBits + fraction) (f.lowExponent + field - 1)

/-- The quotient rounded to the nearest whole number, of two equally near ones the even one. -/
def nearest (n d : Nat) : Nat :=
  let q := n / d
  let r := n % d
  if 2 * r < d then q else if d < 2 * r then q + 1 else q + q % 2

/-- The bit pattern nearest to `± m · 2 ^ e`. -/
def round (negative : Bool) (m : Nat) (e : Int) : Nat :=
  if m = 0 then f.pattern negative 0 0
  else
    -- The exponent of the last bit that is kept.
    let last := max f.lowExponent (e + (Nat.log2 m : Int) - f.fractionBits)
    let kept :=
      if e ≤ last then nearest m (twoPow (last - e).toNat) else m * twoPow (e - last).toNat
    -- Rounding up past the largest significand carries into the exponent field by itself.
    let bits := (last - f.lowExponent).toNat * twoPow f.fractionBits + kept
    if f.topField * twoPow f.fractionBits ≤ bits then f.pattern negative f.topField 0
    else f.pattern negative 0 0 + bits

/-- The bit pattern of a NaN with its quiet bit set. -/
def quieted (negative : Bool) (fraction : Nat) : Nat :=
  f.pattern negative f.topField
    (if fraction / f.quietBit % 2 = 1 then fraction else fraction + f.quietBit)

/-- The value `± m` at a common exponent. -/
def signed (negative : Bool) (m : Nat) : Int := if negative then -m else m

def add (a b : Nat) : Nat :=
  match f.datum a, f.datum b with
  | .nan s x, _ => f.quieted s x
  | _, .nan s x => f.quieted s x
  | .infinite s, .infinite t =>
    if s = t then f.pattern s f.topField 0 else f.pattern true f.topField f.quietBit
  | .infinite s, _ => f.pattern s f.topField 0
  | _, .infinite s => f.pattern s f.topField 0
  | .finite s m e, .finite t n k =>
    let low := min e k
    let sum := signed s (m * twoPow (e - low).toNat) + signed t (n * twoPow (k - low).toNat)
    if sum = 0 then f.pattern (s && t) 0 0 else f.round (sum < 0) sum.natAbs low

def mul (a b : Nat) : Nat :=
  match f.datum a, f.datum b with
  | .nan s x, _ => f.quieted s x
  | _, .nan s x => f.quieted s x
  | .infinite s, .infinite t => f.pattern (s ^^ t) f.topField 0
  | .infinite s, .finite t m _ | .finite t m _, .infinite s =>
    if m = 0 then f.pattern true f.topField f.quietBit else f.pattern (s ^^ t) f.topField 0
  | .finite s m e, .finite t n k => f.round (s ^^ t) (m * n) (e + k)

def half (a : Nat) : Nat :=
  match f.datum a with
  | .nan s x => f.quieted s x
  | .infinite s => f.pattern s f.topField 0
  | .finite s m e => f.round s m (e - 1)

def ofInt (i : Int) : Nat := f.round (i < 0) i.natAbs 0

/-- A bit pattern of another format that is no wider, as one of this format. -/
def widen (g : Format) (a : Nat) : Nat :=
  match g.datum a with
  | .nan s x => f.quieted s (x * twoPow (f.fractionBits - g.fractionBits))
  | .infinite s => f.pattern s f.topField 0
  | .finite s m e => f.round s m e

end Format
end VmHost.Number
