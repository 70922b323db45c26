import VmHost.Context

/-!
# What a fault handler sees

Four registers of the faulting thread, the signal and the faulting address. The handler may write
the registers; if it resumes, the thread goes on with them.
-/
namespace VmHost.Fault

/-- The registers, signal and address of a memory fault.
mirrors `FaultContext` -/
structure View where
  ip : UInt64
  frame : UInt64
  stack : UInt64
  /-- The register that carries the runtime's pointer to the current thread. -/
  thread : UInt64
  signal : Int
  address : UInt64
  deriving DecidableEq, Repr

/-- What a handler decides.
mirrors `FaultAction` -/
inductive Action
  /-- The thread goes on with the registers as the handler left them. -/
  | resume
  /-- The fault belongs to somebody else. -/
  | decline
  deriving DecidableEq, Repr

def Action.name : Action → String
  | .resume => "Resume"
  | .decline => "NotHandled"

/-- New values for some of the registers. -/
structure Changes where
  ip : Option UInt64
  frame : Option UInt64
  stack : Option UInt64
  thread : Option UInt64
  deriving DecidableEq, Repr

namespace View

def ofContext (c : Context) (signal : Int) (address : UInt64) : View where
  ip := c.registers.ip
  frame := c.registers.frame
  stack := c.registers.stack
  thread := c.thread
  signal := signal
  address := address

/-- The three registers that say where the thread stands. -/
def registers (v : View) : Registers := ⟨v.ip, v.frame, v.stack⟩

/-- Writes the four registers of the view back. -/
def restore (v : View) (c : Context) : Context := (c.withRegisters v.registers).withThread v.thread

/-- Replaces the registers that have a new value. -/
def change (v : View) (r : Changes) : View :=
  { v with
    ip := r.ip.getD v.ip
    frame := r.frame.getD v.frame
    stack := r.stack.getD v.stack
    thread := r.thread.getD v.thread }

def debug (v : View) : String :=
  Text.record "FaultContext"
    [("ip", toString v.ip.toNat), ("frame", toString v.frame.toNat),
      ("stack", toString v.stack.toNat), ("thread", toString v.thread.toNat),
      ("signal", toString v.signal), ("address", toString v.address.toNat)]

end View
end VmHost.Fault
