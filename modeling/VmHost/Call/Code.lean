import VmHost.Call.Sample
import VmHost.Executable

/-!
# Generated functions

Two sample functions have machine code that fits into a few bytes. A region that begins with one of
these codes can be called as that function.
-/
namespace VmHost.Call.Code

/-- Machine code that adds its first two integer arguments. -/
def add : List UInt8 := [0x48, 0x8D, 0x04, 0x37, 0xC3]

/-- Machine code that returns the number 42. -/
def fortyTwo : List UInt8 := [0xB8, 0x2A, 0x00, 0x00, 0x00, 0xC3]

/-- Machine codes with what they do. -/
def table : List (List UInt8 × Callee) := [(add, Sample.add), (fortyTwo, Sample.fortyTwo)]

/-- Writes bytes to the beginning of a region. -/
def load (r : Region) (code : List UInt8) : Region :=
  code.zipIdx.foldl (fun r (b, k) => r.write k b) r

/-- The region begins with this code. -/
def isAt (r : Region) (code : List UInt8) : Bool := code.zipIdx.all fun (b, k) => r.read k = b

/-- The function at the beginning of a region. -/
def callee? (r : Region) : Option Callee := (table.find? fun c => isAt r c.1).map (·.2)

end VmHost.Call.Code
