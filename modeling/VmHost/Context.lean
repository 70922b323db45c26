import VmHost.Text.Record

/-!
# The registers of an interrupted thread

A signal saves the 23 general registers of the thread that it interrupts, and the thread goes on
with whatever the saved words are when the handler returns. `Registers` are the three that say
where the thread stands: instruction pointer, frame pointer and stack pointer. A fourth one, `rbx`,
is set aside for the runtime's own pointer to the current thread.
-/
namespace VmHost

/-- The general registers that a signal saves. -/
inductive Reg
  | r8 | r9 | r10 | r11 | r12 | r13 | r14 | r15
  | rdi | rsi | rbp | rbx | rdx | rax | rcx | rsp | rip
  | flags | segments | err | trap | mask | cr2
  deriving DecidableEq, Repr

def Reg.all : List Reg :=
  [.r8, .r9, .r10, .r11, .r12, .r13, .r14, .r15, .rdi, .rsi, .rbp, .rbx, .rdx, .rax, .rcx, .rsp,
    .rip, .flags, .segments, .err, .trap, .mask, .cr2]

structure Registers where
  ip : UInt64
  frame : UInt64
  stack : UInt64
  deriving DecidableEq, Repr

namespace Registers

def zero : Registers := ⟨0, 0, 0⟩

def debug (r : Registers) : String :=
  Text.record "Registers"
    [("ip", toString r.ip.toNat), ("frame", toString r.frame.toNat),
      ("stack", toString r.stack.toNat)]

end Registers

/-- The saved words of every general register. -/
@[ext]
structure Context where
  word : Reg → UInt64

namespace Context

def zero : Context := ⟨fun _ => 0⟩

def set (c : Context) (r : Reg) (w : UInt64) : Context := ⟨fun q => if q = r then w else c.word q⟩

/-- Where the thread stands.
mirrors `MachineContext.registers` -/
def registers (c : Context) : Registers := ⟨c.word .rip, c.word .rbp, c.word .rsp⟩

/-- Makes the thread go on elsewhere.
mirrors `MachineContext.set_registers` -/
def withRegisters (c : Context) (r : Registers) : Context :=
  ((c.set .rip r.ip).set .rbp r.frame).set .rsp r.stack

/-- The register that carries the runtime's pointer to the current thread. -/
def threadRegister : Reg := .rbx

def threadRegisterName : String := "rbx"

/-- The runtime's pointer to the current thread.
mirrors `MachineContext.thread_register` -/
def thread (c : Context) : UInt64 := c.word threadRegister

/-- Replaces the runtime's pointer to the current thread.
mirrors `MachineContext.set_thread_register` -/
def withThread (c : Context) (w : UInt64) : Context := c.set threadRegister w

/-- The two agree on every register that does not say where the thread stands. -/
def agreesElsewhere (c d : Context) : Bool :=
  Reg.all.all fun r => r = .rip || r = .rbp || r = .rsp || c.word r = d.word r

theorem word_set (c : Context) (r q : Reg) (w : UInt64) :
    (c.set r w).word q = if q = r then w else c.word q := rfl

theorem registers_withRegisters (c : Context) (r : Registers) :
    (c.withRegisters r).registers = r := by
  simp [registers, withRegisters, word_set]

end Context
end VmHost
