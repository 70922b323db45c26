import VmHost.Call.NativeType
import VmHost.Error

/-!
# Argument registers

Six registers take integers and pointers, eight take floating-point numbers, each kind in the order
of the arguments. `RegisterFile.marshal` places a list of arguments; there is no other place for
arguments, so one too many of a kind is an error.
-/
namespace VmHost.Call

def integerRegisters : Nat := 6

def floatingRegisters : Nat := 8

/-- The words placed so far, first register first. A register without one is zero. -/
structure RegisterFile where
  integers : List UInt64
  floats : List UInt64
  integers_le : integers.length ≤ integerRegisters := by decide
  floats_le : floats.length ≤ floatingRegisters := by decide
  deriving DecidableEq, Repr

namespace RegisterFile

def empty : RegisterFile where
  integers := []
  floats := []

/-- The word in an integer register. -/
def integer (r : RegisterFile) (k : Nat) : UInt64 := r.integers.getD k 0

/-- The word in a floating-point register. -/
def float (r : RegisterFile) (k : Nat) : UInt64 := r.floats.getD k 0

/-- Places an argument in the next register of its kind. -/
def place (r : RegisterFile) (t : NativeType) (raw : UInt64) : Except Error RegisterFile :=
  if t = .void then .error (.invalidArgument "void argument")
  else if t.isFloating then
    if h : r.floats.length < floatingRegisters then
      .ok { r with
        floats := r.floats ++ [t.widen raw]
        floats_le := by simpa using Nat.succ_le_of_lt h }
    else .error (.unsupported "too many floating-point arguments")
  else
    if h : r.integers.length < integerRegisters then
      .ok { r with
        integers := r.integers ++ [t.widen raw]
        integers_le := by simpa using Nat.succ_le_of_lt h }
    else .error (.unsupported "too many integer arguments")

/-- Places arguments from left to right; the first that has no place is the error.
mirrors the loop over the arguments in `dispatch.call` -/
def placeAll (r : RegisterFile) : List (NativeType × UInt64) → Except Error RegisterFile
  | [] => .ok r
  | (t, raw) :: rest =>
    match r.place t raw with
    | .ok r' => r'.placeAll rest
    | .error e => .error e

/-- The registers for a list of arguments. -/
def marshal (arguments : List (NativeType × UInt64)) : Except Error RegisterFile :=
  empty.placeAll arguments

end RegisterFile
end VmHost.Call
