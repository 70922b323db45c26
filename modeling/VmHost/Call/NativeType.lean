/-!
# Types of native arguments and results

How a value of a native function lies in a 64-bit register. A narrow integer is widened with its
sign, a single-precision number keeps its 32 bits, everything else fills the register.
-/
namespace VmHost.Call

/-- The type of an argument or a result.
mirrors `ArgType` -/
inductive NativeType
  | void
  | int8
  | int16
  | int32
  | int64
  | pointer
  | single
  | double
  deriving DecidableEq, Repr

namespace NativeType

def ofNumber? : Nat → Option NativeType
  | 0 => some .void
  | 1 => some .int8
  | 2 => some .int16
  | 3 => some .int32
  | 4 => some .int64
  | 5 => some .pointer
  | 6 => some .single
  | 7 => some .double
  | _ => none

def name : NativeType → String
  | .void => "Void"
  | .int8 => "Int8"
  | .int16 => "Int16"
  | .int32 => "Int32"
  | .int64 => "Int64"
  | .pointer => "Pointer"
  | .single => "Float"
  | .double => "Double"

/-- The value travels in a floating-point register.
mirrors `ArgType.is_floating` -/
def isFloating : NativeType → Bool
  | .single | .double => true
  | _ => false

/-- The value travels in an integer register. -/
def isInteger : NativeType → Bool
  | .void | .single | .double => false
  | _ => true

/-- The low `bits` bits of a word, the rest filled with the highest of them. -/
def signExtend (bits : Nat) (w : UInt64) : UInt64 :=
  UInt64.ofBitVec ((w.toBitVec.setWidth bits).signExtend 64)

/-- The register contents that a word of this type stands for.
mirrors `ArgType.widen` -/
def widen (t : NativeType) (w : UInt64) : UInt64 :=
  match t with
  | .int8 => signExtend 8 w
  | .int16 => signExtend 16 w
  | .int32 => signExtend 32 w
  | .single => w &&& 0xFFFFFFFF
  | .void | .int64 | .pointer | .double => w

end NativeType
end VmHost.Call
