import VmHost.Text.Digits
import VmHost.Text.Record

/-!
# Wait flags

Two flags of a thread: it is inside a wait, and a notification has reached it. They are kept as the
low bits of a byte; operations that take a byte from outside may leave other bits set, and those
are shown in hexadecimal after the names of the known ones.
-/
namespace VmHost

/-- A set of wait flags, as the bits of a byte.
mirrors `ThreadFlags` -/
structure Flags where
  bits : UInt8
  deriving DecidableEq, Repr, Inhabited

namespace Flags

def none : Flags := ⟨0⟩

def waiting : Flags := ⟨1⟩

/-- A notification has reached the thread. -/
def notified : Flags := ⟨2⟩

def known : Flags := ⟨3⟩

def union (a b : Flags) : Flags := ⟨a.bits ||| b.bits⟩

def inter (a b : Flags) : Flags := ⟨a.bits &&& b.bits⟩

/-- The flags of the first set that the second one lacks. -/
def diff (a b : Flags) : Flags := ⟨a.bits &&& ~~~b.bits⟩

/-- The flags of exactly one of the sets. -/
def symmDiff (a b : Flags) : Flags := ⟨a.bits ^^^ b.bits⟩

/-- The bits with a meaning. -/
def truncate (bits : UInt8) : Flags := inter ⟨bits⟩ known

/-- The set with these bits, if each of them has a meaning. -/
def ofBits? (bits : UInt8) : Option Flags :=
  if truncate bits = ⟨bits⟩ then some ⟨bits⟩ else .none

/-- The flags with a meaning that the set lacks. -/
def compl (a : Flags) : Flags := truncate (~~~a.bits)

/-- Every flag of the second set is in the first one. -/
def contains (a b : Flags) : Bool := inter a b = b

/-- The sets share a flag. -/
def intersects (a b : Flags) : Bool := inter a b ≠ none

/-- Every flag that has a meaning is in the set. -/
def isFull (a : Flags) : Bool := a.contains known

/-- The set as text: the names of its flags and, in hexadecimal, the bits without a meaning. -/
def debug (a : Flags) : String :=
  let rest := a.diff known
  let parts := (if a.contains waiting then ["WAITING"] else []) ++
    (if a.contains notified then ["NOTIFIED"] else []) ++
    (if rest = none then [] else ["0x" ++ String.ofList (Text.hex rest.bits.toNat)])
  Text.tagged "ThreadFlags" (if parts = [] then "0x0" else " | ".intercalate parts)

/-- Flags that are set are there. -/
theorem contains_union (a b : Flags) : (a.union b).contains b = true := by
  have h : (a.bits ||| b.bits) &&& b.bits = b.bits := by
    rw [← UInt8.toBitVec_inj]
    ext i
    simpa using Or.inr
  exact decide_eq_true (congrArg Flags.mk h)

/-- Flags that are there stay when others are set. -/
theorem contains_union_left {a c : Flags} (b : Flags) (h : a.contains c = true) :
    (a.union b).contains c = true := by
  have hc : a.bits &&& c.bits = c.bits := congrArg Flags.bits (of_decide_eq_true h)
  have hu : (a.bits ||| b.bits) &&& c.bits = c.bits := by
    rw [← UInt8.toBitVec_inj] at hc ⊢
    ext i hi
    have := congrArg (fun v => v[i]) hc
    simp only [UInt8.toBitVec_and, UInt8.toBitVec_or, BitVec.getElem_and, BitVec.getElem_or]
      at this ⊢
    grind
  exact decide_eq_true (congrArg Flags.mk hu)

end Flags
end VmHost
