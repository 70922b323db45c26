/-!
# The stages of a thread's life

A thread is created, runs, finishes and is joined, in this order. Only a running thread can be sent
a signal.
-/
namespace VmHost

/-- How far a thread has come.
mirrors `ThreadState` -/
inductive Stage
  | created
  | running
  | finished
  | joined
  deriving DecidableEq, Repr, Inhabited

namespace Stage

def number : Stage → Nat
  | .created => 0
  | .running => 1
  | .finished => 2
  | .joined => 3

/-- The stage with this number; every number above the last one means joined.
mirrors `ThreadState.from` -/
def ofNumber : Nat → Stage
  | 0 => .created
  | 1 => .running
  | 2 => .finished
  | _ => .joined

/-- The OS thread may still be sent signals.
mirrors `ThreadState.is_live` -/
def isLive (s : Stage) : Bool := s = .running

def name : Stage → String
  | .created => "Created"
  | .running => "Running"
  | .finished => "Finished"
  | .joined => "Joined"

theorem ofNumber_number (s : Stage) : ofNumber s.number = s := by cases s <;> rfl

end Stage
end VmHost
