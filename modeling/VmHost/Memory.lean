/-!
# Memory of which some can be read

Memory is given by its words, by address, as far as they can be read. Whole pages can be taken away
and given back. `Memory.obstacle?` says where a load of a word fails: at the first byte that cannot
be read.
-/
namespace VmHost

def pageSize : Nat := 4096

def pageOf (address : UInt64) : UInt64 := address / pageSize.toUInt64

def wordSize : UInt64 := 8

/-- The address of the last byte of the word at an address. -/
def lastByte (address : UInt64) : UInt64 := address + (wordSize - 1)

/-- The machine can form the address: its highest 17 bits are equal. -/
def isCanonical (address : UInt64) : Bool :=
  address < 0x800000000000 || 0xFFFF800000000000 ≤ address

/-- The words of memory that can be read, by address. -/
structure Memory where
  word? : UInt64 → Option UInt64

namespace Memory

def none : Memory := ⟨fun _ => .none⟩

/-- The readable bytes start at `base`; the words there are given by place, the others are zero. -/
def region (base : UInt64) (size : Nat) (words : List (Nat × UInt64)) : Memory where
  word? address :=
    if base ≤ address ∧ address.toNat + 8 ≤ base.toNat + size then
      some ((words.lookup ((address.toNat - base.toNat) / 8)).getD 0)
    else .none

/-- Takes a page away: no word with a byte in it can be read. -/
def hide (m : Memory) (page : UInt64) : Memory where
  word? address :=
    if pageOf address = page ∨ pageOf (lastByte address) = page then .none else m.word? address

/-- Gives a page back: the words in it can be read, and are zero. -/
def clear (m : Memory) (page : UInt64) : Memory where
  word? address :=
    if pageOf address = page ∧ pageOf (lastByte address) = page then some 0 else m.word? address

/-- The byte at an address can be read. -/
def hasByte (m : Memory) (address : UInt64) : Bool :=
  (m.word? (address / wordSize * wordSize)).isSome

/-- The address at which a load of a word fails, if it does. A load from an address that the machine
cannot form fails before there is an address, which counts as zero. -/
def obstacle? (m : Memory) (address : UInt64) : Option UInt64 :=
  if !(isCanonical address && isCanonical (lastByte address)) then some 0
  else if !m.hasByte address then some address
  else if !m.hasByte (lastByte address) then some (lastByte address / wordSize * wordSize)
  else .none

end Memory
end VmHost
