import VmHost.Call.Invocation
import VmHost.Number.Binary

/-!
# Sample functions

Small native functions over the argument registers, for trying calls: sums, differences and
narrowings of integers, sums, products and halves of floating-point numbers. A function that
returns an integer leaves the first floating-point register as it is.
-/
namespace VmHost.Call.Sample

/-- The function leaves an integer. -/
def integerResult (f : RegisterFile → UInt64) : Callee := fun r => ⟨f r, r.float 0⟩

/-- Leaves the same word in both result registers. -/
def constant (w : UInt64) : Callee := fun _ => ⟨w, w⟩

/-- Adds a 32-bit, a 64-bit and an 8-bit integer. -/
def addThree : Callee := integerResult fun r =>
  NativeType.int32.widen (r.integer 0) + r.integer 1 + NativeType.int8.widen (r.integer 2)

def add : Callee := integerResult fun r => r.integer 0 + r.integer 1

def fortyTwo : Callee := integerResult fun _ => 42

/-- Adds and subtracts six words in turn. -/
def pick : Callee := integerResult fun r =>
  r.integer 0 - r.integer 1 + r.integer 2 - r.integer 3 + r.integer 4 - r.integer 5

/-- The low byte, as a signed integer. -/
def toByte : Callee := integerResult fun r => NativeType.int8.widen (r.integer 0)

/-- The low half, as a signed integer. -/
def toWord : Callee := integerResult fun r => NativeType.int32.widen (r.integer 0)

/-- The low two bytes, negated. -/
def toShort : Callee := integerResult fun r => NativeType.int16.widen (0 - r.integer 0)

/-- A word as a double-precision number. -/
def doubleOf (w : UInt64) : Nat := Number.Format.double.ofInt w.toInt64.toInt

/-- Adds a 32-bit integer, a double, a 64-bit integer and a single, from left to right. -/
def mixed : Callee := fun r =>
  let f := Number.Format.double
  let first := f.add (doubleOf (NativeType.int32.widen (r.integer 0))) (r.float 0).toNat
  let second := f.add first (doubleOf (r.integer 1))
  let third := f.add second (f.widen .single ((r.float 1).toNat % UInt32.size))
  ⟨0, third.toUInt64⟩

/-- Adds the products of a 32-bit integer with a double and of a 64-bit integer with another. -/
def dot : Callee := fun r =>
  let f := Number.Format.double
  let first := f.mul (doubleOf (NativeType.int32.widen (r.integer 0))) (r.float 0).toNat
  let second := f.mul (doubleOf (r.integer 1)) (r.float 1).toNat
  ⟨0, (f.add first second).toUInt64⟩

def halve : Callee := fun r =>
  ⟨0, (Number.Format.single.half ((r.float 0).toNat % UInt32.size)).toUInt64⟩

def table : List (String × Callee) :=
  [("add3", addThree), ("mixed", mixed), ("halve", halve), ("pick", pick), ("to_byte", toByte),
    ("to_word", toWord), ("to_short", toShort), ("gen_add", add), ("gen_42", fortyTwo)]

end VmHost.Call.Sample
