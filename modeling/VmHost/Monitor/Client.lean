import VmHost.Monitor.Machine

/-!
# Clients of monitors

A client says what each OS thread does between its operations on monitors. It sees a value that all
threads share, a value of the thread's own, and the answer of the last operation; it may change both
values and then call the next operation, or go on without one, or be over. A world is the state of
all monitors together with these values. Each OS thread uses the identity of the same number, and
one step of a world is one step of one thread.
-/
namespace VmHost.Monitor

inductive Move (Shared Own : Type)
  /-- It changes the values and calls an operation. -/
  | call (c : Call) (shared : Shared) (own : Own)
  /-- It changes the values. -/
  | change (shared : Shared) (own : Own)
  /-- Nothing any more. -/
  | stop

/-- What every thread does next, from the shared value, its own value, and the answer of its last
operation. -/
abbrev Client (Shared Own : Type) := Shared → Own → Option Reply → Move Shared Own

/-- All monitors, the shared value, and the own value of every thread. -/
structure World (Shared Own : Type) where
  monitors : State
  shared : Shared
  own : Row Own

namespace World

variable {Shared Own : Type} [Inhabited Own]

def start (shared : Shared) (own : List Own) : World Shared Own := ⟨.start, shared, .ofList own⟩

/-- A thread between two operations makes a move. -/
def move (client : Client Shared Own) (w : World Shared Own) (o : OsThread) (r : Option Reply) :
    Option (World Shared Own) :=
  match client w.shared (w.own.get o) r with
  | .call c shared own =>
    (w.monitors.step (.call o o c)).map fun m => ⟨m, shared, w.own.set o own⟩
  | .change shared own => some { w with shared := shared, own := w.own.set o own }
  | .stop => none

/-- A step of a thread, if it has one. -/
def step (client : Client Shared Own) (w : World Shared Own) (o : OsThread) :
    Option (World Shared Own) :=
  if w.monitors.violation.isSome then none
  else
    match w.monitors.point o with
    | .rest r => w.move client o r
    | _ => (w.monitors.step (.advance o)).map fun m => { w with monitors := m }

/-- A thread has nothing to do any more. -/
def isOver (client : Client Shared Own) (w : World Shared Own) (o : OsThread) : Bool :=
  match w.monitors.point o with
  | .rest r =>
    match client w.shared (w.own.get o) r with
    | .stop => true
    | _ => false
  | _ => false

/-- The worlds that can be reached from a first one, in any order of the threads' steps. -/
inductive Reachable (client : Client Shared Own) (w₀ : World Shared Own) : World Shared Own → Prop
  | refl : Reachable client w₀ w₀
  | step {w v : World Shared Own} (o : OsThread) :
    Reachable client w₀ w → w.step client o = some v → Reachable client w₀ v

/-- Each of the first `n` threads takes a step, if it has one; and whether one had. -/
def round (client : Client Shared Own) (w : World Shared Own) : Nat → Bool × World Shared Own
  | 0 => (false, w)
  | n + 1 =>
    let (moved, w) := w.round client n
    match w.step client n with
    | some w => (true, w)
    | none => (moved, w)

/-- The first `n` threads take turns until none has a step, for at most `fuel` rounds. -/
def run (client : Client Shared Own) (n : Nat) : Nat → World Shared Own → World Shared Own
  | 0, w => w
  | fuel + 1, w =>
    match w.round client n with
    | (true, w) => run client n fuel w
    | (false, w) => w

end World
end VmHost.Monitor
