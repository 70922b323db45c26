import VmHost.Row
import VmHost.Sync.Mutex

/-!
# A manual-reset event on a futex word

The event is one word: signaled or not. Setting it swaps the word and wakes all sleepers if the word
was clear before; resetting clears it. A waiting thread reads the word, looks at the clock if it has
a deadline, and asks the kernel to put it to sleep, which the kernel does only if the word is still
clear. The kernel may end a sleep at any time; the thread then starts over.

One step is one access to the word, to the clock or to the kernel.
-/
namespace VmHost.Event

inductive Op
  | set
  | reset
  /-- Waits until the event is signaled, or for a number of milliseconds. -/
  | wait (ms : Option Nat)
  deriving DecidableEq, Repr

/-- What an OS thread is about to do. -/
inductive Point
  /-- Nothing; the answer of its last wait. -/
  | out (answer : Option Bool)
  /-- Swap the word for a signaled one. -/
  | swapping
  /-- Wake all sleepers. -/
  | waking
  /-- Clear the word. -/
  | clearing
  /-- Compute the deadline. -/
  | timing (ms : Nat)
  /-- Read the word. -/
  | reading (deadline : Option Nat)
  /-- Having read a clear word, look at the clock. -/
  | weighing (deadline : Nat)
  /-- Ask the kernel to sleep. -/
  | dozing (deadline : Option Nat)
  /-- Sleep until woken. -/
  | asleep (deadline : Option Nat)
  deriving DecidableEq, Repr

instance : Inhabited Point := ⟨.out none⟩

/-- The word, the clock in milliseconds, and all OS threads. -/
structure State where
  signaled : Bool
  now : Nat
  threads : Row Point

inductive Label
  | call (o : OsThread) (op : Op)
  /-- An OS thread does what it is about to do. -/
  | advance (o : OsThread)
  /-- The kernel ends a sleep for a reason of its own. -/
  | rouse (o : OsThread)
  /-- Time passes. -/
  | pass (ms : Nat)
  deriving DecidableEq, Repr

namespace State

def start : State := ⟨false, 0, .empty⟩

def moveTo (s : State) (o : OsThread) (p : Point) : State :=
  { s with threads := s.threads.set o p }

/-- The first thing to do for an operation. -/
def first : Op → Point
  | .set => .swapping
  | .reset => .clearing
  | .wait (some ms) => .timing ms
  | .wait none => .reading none

/-- A sleeper that is woken reads the word again. -/
def wake : Point → Point
  | .asleep d => .reading d
  | p => p

/-- An OS thread does what it is about to do.
mirrors `FutexEvent.set`, `reset`, `is_set` and `wait` -/
def advance (s : State) (o : OsThread) : Option State :=
  match s.threads.get o with
  | .out _ | .asleep _ => none
  | .swapping =>
    some ({ s with signaled := true }.moveTo o (if s.signaled then .out none else .waking))
  | .waking => some ({ s with threads := s.threads.map wake }.moveTo o (.out none))
  | .clearing => some ({ s with signaled := false }.moveTo o (.out none))
  | .timing ms => some (s.moveTo o (.reading (some (s.now + ms))))
  | .reading d =>
    some (s.moveTo o
      (if s.signaled then .out (some true)
        else match d with
          | some deadline => .weighing deadline
          | none => .dozing none))
  | .weighing d =>
    some (s.moveTo o (if d ≤ s.now then .out (some false) else .dozing (some d)))
  | .dozing d => some (s.moveTo o (if s.signaled then .reading d else .asleep d))

/-- What happens at a label, if it can happen. -/
def step (s : State) : Label → Option State
  | .call o op =>
    match s.threads.get o with
    | .out _ => some (s.moveTo o (first op))
    | _ => none
  | .advance o => s.advance o
  | .rouse o =>
    match s.threads.get o with
    | .asleep d => some (s.moveTo o (.reading d))
    | _ => none
  | .pass ms => some { s with now := s.now + ms }

inductive Reachable (s₀ : State) : State → Prop
  | refl : Reachable s₀ s₀
  | step {s t : State} (l : Label) : Reachable s₀ s → s.step l = some t → Reachable s₀ t

/-- One thing that an OS thread alone with the event does; asleep, it sleeps until its deadline. -/
def solo (s : State) (o : OsThread) : Option State :=
  match s.threads.get o with
  | .asleep (some d) => (s.step (.pass (d - s.now))).bind fun s => s.step (.rouse o)
  | _ => s.advance o

/-- Goes on until the OS thread has done its operation, for at most `fuel` steps. -/
def finish : Nat → State → OsThread → State
  | 0, s, _ => s
  | fuel + 1, s, o =>
    match s.solo o with
    | some s' => finish fuel s' o
    | none => s

/-- An OS thread alone with the event does an operation. A wait reads the word twice at most. -/
def perform (s : State) (o : OsThread) (op : Op) : Option Bool × State :=
  let s := finish 8 ((s.step (.call o op)).getD s) o
  (match s.threads.get o with
    | .out answer => answer
    | _ => none, s)

end State
end VmHost.Event
