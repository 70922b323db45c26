import VmHost.Monitor.Machine

/-!
# Operations that nobody disturbs

One OS thread carries out an operation while nobody else does anything. A wait with a time limit
ends by it; an operation that needs somebody else's help stops where it does.
-/
namespace VmHost.Monitor.State

/-- The sleep of an OS thread runs to its time limit, if it has one. -/
def sleepOut (s : State) (o : OsThread) : Option State :=
  match s.point o with
  | .sleeping w since =>
    if w.ms = 0 then none
    else (s.step (.pass (since + w.ms - s.now))).bind fun s => s.step (.giveUp o)
  | _ => none

/-- An OS thread goes on without help from others, for at most `fuel` steps. -/
def settle : Nat → State → OsThread → State
  | 0, s, _ => s
  | fuel + 1, s, o =>
    match s.step (.advance o) <|> s.sleepOut o with
    | some s' => settle fuel s' o
    | none => s

/-- No operation takes more steps than this: a fixed number, and some for each waiting thread. -/
def soloFuel (s : State) : Nat :=
  s.monitors.cells.foldl (fun n m => n + 4 * m.queue.length) 16

/-- An OS thread carries out an operation, as far as that goes without help from others. -/
def carryOut (s : State) (o : OsThread) (i : Identity) (c : Call) : State :=
  settle s.soloFuel ((s.step (.call o i c)).getD s) o

/-- The answer of the last operation of an OS thread, if that has ended. -/
def reply? (s : State) (o : OsThread) : Option Reply :=
  match s.point o with
  | .rest r => r
  | _ => none

end VmHost.Monitor.State
