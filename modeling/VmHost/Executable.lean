import VmHost.Error
import VmHost.Memory
import VmHost.Text.Digits
import VmHost.Text.Record

/-!
# Memory for generated code

A region is a number of whole pages that can be read, written and executed. Fresh pages hold zeros.
-/
namespace VmHost

/-- The size from which on the operating system refuses a single piece of memory: it promises no
more than the machine could ever hold. -/
def commitLimit : Nat := 0x800000000

/-- Pages that can be executed. Only bytes that were written are stored, the last write first.
mirrors `ExecutableRegion` -/
structure Region where
  base : Nat
  size : Nat
  writes : List (Nat × UInt8)
  deriving DecidableEq, Repr

namespace Region

/-- Where a region comes to lie if it is the only one. -/
def home : Nat := 0x400000000000

/-- The operating system cannot find the pages. -/
def outOfMemory : Error := .exhausted ⟨.memory, 12⟩

/-- A fresh region of this size in bytes.
mirrors `ExecutableRegion.allocate` -/
def allocate (size : Nat) : Except Error Region :=
  if size = 0 ∨ size % pageSize ≠ 0 then
    .error (.invalidArgument "size must be a positive multiple of the page size")
  else if commitLimit ≤ size then .error outOfMemory
  else .ok ⟨home, size, []⟩

def isAligned (r : Region) : Bool := r.base % pageSize = 0

def contains (r : Region) (address : Int) : Bool := r.base ≤ address && address < r.base + r.size

def write (r : Region) (offset : Nat) (b : UInt8) : Region :=
  { r with writes := (offset, b) :: r.writes }

def read (r : Region) (offset : Nat) : UInt8 := (r.writes.lookup offset).getD 0

def debug (r : Region) : String :=
  Text.record "ExecutableRegion"
    [("base", "0x" ++ String.ofList (Text.hex r.base)), ("len", toString r.size)]

theorem read_write (r : Region) (offset k : Nat) (b : UInt8) :
    (r.write offset b).read k = if k = offset then b else r.read k := by
  simp only [read, write, List.lookup_cons]
  cases h : k == offset <;> simp_all

end Region
end VmHost
