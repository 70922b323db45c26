import VmHost.Context
import VmHost.Memory

/-!
# Walking the frames of a stack

A frame pointer points at the frame pointer of the caller; the return address lies one word above
it. The walk trusts nothing: it ends at a frame pointer that is zero, not a multiple of a word,
below the stack pointer or unreadable, at a return address of zero, and after a frame whose caller's
frame does not lie above it. The address of the word above the last frame pointer of the address
space cannot be computed; there the walk breaks off.
-/
namespace VmHost.Snapshot

/-- The return addresses that a walk found, and whether it broke off at an address that cannot be
computed. -/
structure Walk where
  returns : List UInt64
  broken : Bool
  deriving DecidableEq, Repr

namespace Walk

def stop : Walk := ⟨[], false⟩

def breakOff : Walk := ⟨[], true⟩

/-- The walk found a return address before the rest. -/
def found (ret : UInt64) (w : Walk) : Walk := { w with returns := ret :: w.returns }

/-- The frame pointer can be followed. -/
def isPlausible (stack fp : UInt64) : Bool := fp ≠ 0 && fp % wordSize == 0 && stack ≤ fp

/-- Walks at most `limit` frames from a frame pointer on.
mirrors the loop of `snapshot.write` -/
def run (mem : Memory) (stack : UInt64) : Nat → UInt64 → Walk
  | 0, _ => stop
  | limit + 1, fp =>
    if !isPlausible stack fp then stop
    else if UInt64.size ≤ fp.toNat + wordSize.toNat then breakOff
    else
      match mem.word? fp, mem.word? (fp + wordSize) with
      | some next, some ret =>
        if ret = 0 then stop
        else found ret (if next ≤ fp then stop else run mem stack limit next)
      | _, _ => stop

end Walk
end VmHost.Snapshot
