import VmHost.Text.Record

/-!
# Names of threads

A thread that the runtime knows has a number that is not zero and that no other thread of the
process has. Zero stands for "no thread" wherever a thread may be missing.
-/
namespace VmHost

/-- The number of a thread, never zero. -/
structure ThreadId where
  raw : UInt64
  raw_ne_zero : raw ≠ 0
  deriving DecidableEq, Repr

namespace ThreadId

/-- The thread with this number; none has the number zero.
mirrors `ThreadId.from_raw` -/
def ofRaw? (raw : UInt64) : Option ThreadId :=
  if h : raw = 0 then none else some ⟨raw, h⟩

def text (id : ThreadId) : String := toString id.raw.toNat

def debug (id : ThreadId) : String := Text.tagged "ThreadId" id.text

/-- The order of two thread numbers of which either may be missing: no thread comes first. -/
def compare : Option ThreadId → Option ThreadId → Ordering
  | none, none => .eq
  | none, some _ => .lt
  | some _, none => .gt
  | some a, some b => Ord.compare a.raw b.raw

end ThreadId
end VmHost
