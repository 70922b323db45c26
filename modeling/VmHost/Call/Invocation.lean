import VmHost.Call.RegisterFile

/-!
# Calling a native function

A native function reads the argument registers and leaves a word in each of the two result
registers. `invoke` checks a call, places its arguments, and enters the function exactly once if
nothing is wrong; the record of a call keeps the register files that the function was entered with.
-/
namespace VmHost.Call

/-- The result registers after a function. -/
structure Results where
  integer : UInt64
  float : UInt64
  deriving DecidableEq, Repr

abbrev Callee := RegisterFile → Results

/-- A call as it was asked for. A missing callee is the null pointer. -/
structure Request where
  callee : Option Callee
  arguments : List UInt64
  types : List NativeType
  /-- The size of the argument buffer in bytes. -/
  bufferSize : Nat
  result : NativeType

/-- What became of a call. -/
structure Record where
  /-- The registers at each entry of the callee. -/
  entries : List RegisterFile
  outcome : Except Error UInt64

/-- The number of bytes that an argument takes in its buffer. -/
def slotSize : Nat := 8

/-- The word that the caller gets: of the result register of its type, widened from that type. -/
def Results.take (r : Results) (t : NativeType) : UInt64 :=
  t.widen (if t = .void then 0 else if t.isFloating then r.float else r.integer)

/-- Calls a function.
mirrors `dispatch.call` -/
def Request.invoke (q : Request) : Record :=
  match q.callee with
  | none => ⟨[], .error (.invalidArgument "null function pointer")⟩
  | some callee =>
    if q.arguments.length ≠ q.types.length then
      ⟨[], .error (.invalidArgument "argument and type counts differ")⟩
    else if q.bufferSize ≠ q.arguments.length * slotSize then
      ⟨[], .error (.invalidArgument "buffer size does not match argument count")⟩
    else
      match RegisterFile.marshal (q.types.zip q.arguments) with
      | .error e => ⟨[], .error e⟩
      | .ok registers => ⟨[registers], .ok ((callee registers).take q.result)⟩

end VmHost.Call
