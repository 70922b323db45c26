import VmHost.Monitor.Client

/-!
# Counting together

Threads add to one count, each a fixed number of times. An addition reads the count in one step and
writes it in another, inside a monitor that the thread has entered twice; so no addition is lost as
long as the monitor lets nobody else in, also after it has been left once.
-/
namespace VmHost.Monitor.Tally

inductive Place
  /-- Before the monitor. -/
  | outside
  /-- In the monitor, once. -/
  | entered
  /-- In the monitor twice, about to read the count. -/
  | reading
  /-- About to write the count; this is what it read. -/
  | writing (seen : Nat)
  /-- About to leave the monitor for the first time. -/
  | leaving
  /-- About to leave the monitor altogether. -/
  | parting
  deriving DecidableEq, Repr

/-- A thread and the additions that it still has to do. -/
structure Counter where
  left : Nat
  place : Place
  deriving DecidableEq, Repr

instance : Inhabited Counter := ⟨⟨0, .outside⟩⟩

/-- The count, the number of threads between reading and leaving, and how often a thread came there
while another one was. -/
structure Sheet where
  count : Nat
  inside : Nat
  overlaps : Nat
  deriving DecidableEq, Repr

/-- The monitor around the count. -/
def monitor : MonitorId := 0

def client : Client Sheet Counter := fun t c _ =>
  match c.place with
  | .outside =>
    match c.left with
    | 0 => .stop
    | left + 1 => .call (.acquire monitor) t ⟨left, .entered⟩
  | .entered => .call (.acquire monitor) t { c with place := .reading }
  | .reading =>
    .change
      { t with inside := t.inside + 1, overlaps := t.overlaps + if t.inside = 0 then 0 else 1 }
      { c with place := .writing t.count }
  | .writing seen => .change { t with count := seen + 1 } { c with place := .leaving }
  | .leaving =>
    .call (.release monitor) { t with inside := t.inside - 1 } { c with place := .parting }
  | .parting => .call (.release monitor) t { c with place := .outside }

/-- A number of threads with this many additions each. -/
def start (threads rounds : Nat) : World Sheet Counter :=
  .start ⟨0, 0, 0⟩ (List.replicate threads ⟨rounds, .outside⟩)

end VmHost.Monitor.Tally
