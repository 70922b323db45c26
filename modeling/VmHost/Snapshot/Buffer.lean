import VmHost.Text.Bytes

/-!
# Buffers of a fixed capacity

A buffer takes bytes as long as it has room. A piece that does not fit is cut off where the room
ends, and the write fails; a list of pieces is written until one fails.
-/
namespace VmHost.Snapshot

/-- Bytes up to a capacity.
mirrors `StackBuf` -/
structure Buffer where
  capacity : Nat
  bytes : Bytes
  fits : bytes.length ≤ capacity
  deriving DecidableEq, Repr

namespace Buffer

def empty (capacity : Nat) : Buffer := ⟨capacity, [], Nat.zero_le _⟩

/-- The number of bytes that can still be written. -/
def room (b : Buffer) : Nat := b.capacity - b.bytes.length

/-- Writes as much of a piece as there is room for. -/
def push (b : Buffer) (piece : Bytes) : Buffer where
  capacity := b.capacity
  bytes := b.bytes ++ piece.take b.room
  fits := by
    have := b.fits
    have : (piece.take b.room).length ≤ b.room := List.length_take_le ..
    simp only [List.length_append, room] at *; omega

/-- Writes a piece; the truth value says whether all of it was written.
mirrors `StackBuf.write_str` -/
def write (b : Buffer) (piece : Bytes) : Bool × Buffer := (piece.length ≤ b.room, b.push piece)

/-- Writes pieces in order until one does not fit. -/
def writeAll (b : Buffer) : List Bytes → Bool × Buffer
  | [] => (true, b)
  | piece :: rest =>
    match b.write piece with
    | (true, b') => b'.writeAll rest
    | (false, b') => (false, b')

/-- What becomes of pieces in a buffer of this capacity. -/
def format (capacity : Nat) (pieces : List Bytes) : Bytes :=
  ((empty capacity).writeAll pieces).2.bytes

end Buffer
end VmHost.Snapshot
