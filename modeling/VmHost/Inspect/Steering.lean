import VmHost.Inspect.Solo
import VmHost.Platform
import VmHost.Thread.Life
import VmHost.Thread.Start

/-!
# Steering a thread out of a loop

A thread spins in a loop that it never leaves by itself. An inspector visits it a number of times,
stops it, gives it an instruction pointer past the loop, perhaps with other frame and stack
pointers, and lets it go. Past the loop the thread notes what registers it has, and its task ends.
-/
namespace VmHost.Inspect.Steering

/-- The instructions of the loop, each as long as the other. -/
def loopStart : UInt64 := 0x400000

def stride : UInt64 := 2

/-- The instruction after the two of the loop. -/
def pastLoop : UInt64 := loopStart + stride + stride

/-- The address is that of an instruction of the loop. -/
def isInLoop (ip : UInt64) : Bool := loopStart ≤ ip && ip < pastLoop

/-- The registers of a thread that enters the loop. -/
def entering : Context := Context.zero.withRegisters ⟨loopStart, 0x7FFC00000100, 0x7FFC00000000⟩

/-- The registers after one more instruction; past the loop the thread stays where it is. -/
def advance (c : Context) : Context :=
  let ip := c.word .rip
  if isInLoop ip then c.set .rip (if ip = loopStart then ip + stride else loopStart) else c

def inspector : OsThread := 0

def spinner : Identity := 1

/-- The longest time to wait for the spinning thread, in nanoseconds. -/
def timeout : Nat := 5000000000

structure Plan where
  visits : Nat
  /-- The frame and stack pointers to set, unless they are to stay. -/
  frame : Option UInt64
  stack : Option UInt64
  deriving DecidableEq, Repr

structure Report where
  /-- The calls of the visitor. -/
  visits : Nat
  /-- Every instruction pointer that was seen lies in the loop. -/
  inLoop : Bool
  /-- The registers that were set read back, and all others are as before. -/
  kept : Bool
  /-- The thread has left the loop. -/
  escaped : Bool
  /-- The frame and stack pointers past the loop, unless they were to stay. -/
  frame : Option UInt64
  stack : Option UInt64
  /-- The stage of the thread when everything is over. -/
  stage : Stage
  deriving DecidableEq, Repr

/-- The inspector and the spinning thread, both running. -/
def start : State :=
  { State.start with
    subjects := .ofList
      [⟨.zero, true, true, false, false, false, .out⟩,
        ⟨entering, true, true, false, false, false, .out⟩] }

/-- The spinning thread runs one instruction. -/
def spin (s : State) : State :=
  (s.step (.run spinner (advance (s.subjects.get spinner).context))).getD s

/-- Visits the spinning thread a number of times, with an instruction after each visit: what the
visitor got. -/
def visitAll : Nat → State → List Registers × State
  | 0, s => ([], s)
  | n + 1, s =>
    let (_, seen, s) := s.visit inspector inspector spinner timeout
    let (more, s) := visitAll n (spin s)
    (seen ++ more, s)

/-- The registers with which the spinning thread is to go on. -/
def Plan.registers (p : Plan) (r : Registers) : Registers :=
  ⟨pastLoop, p.frame.getD r.frame, p.stack.getD r.stack⟩

/-- The process around the two threads: a platform that has adopted the inspector's thread and
started the other one. -/
def furnish (h : Host) : Host :=
  ((Platform.furnish h).attachThread 1).startThreads 2 1 Config.standard.stackSize.toNat

def run (p : Plan) : Report :=
  let (seen, s) := visitAll p.visits start
  let before := (s.subjects.get spinner).context
  let s := s.suspend inspector inspector spinner timeout
  let held := (s.held? inspector).getD .zero
  let s := s.after inspector spinner (.overwrite inspector (p.registers held))
  let back := s.held? inspector
  let s := spin (s.after inspector spinner (.resume inspector))
  let found := (s.subjects.get spinner).context
  let escaped := !isInLoop found.registers.ip
  let life := if escaped then (Life.started spinner).complete false else Life.started spinner
  { visits := seen.length
    inLoop := (seen ++ [held]).all fun r => isInLoop r.ip
    kept := back = some (p.registers held) && found.agreesElsewhere before
    escaped := escaped
    frame := p.frame.map fun _ => found.registers.frame
    stack := p.stack.map fun _ => found.registers.stack
    stage := (life.joinBy inspector).stage }

end VmHost.Inspect.Steering
