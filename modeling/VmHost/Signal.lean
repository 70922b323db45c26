import VmHost.Error

/-!
# Signals

The signals numbered 1 to 31 have names; no other number is a signal. Four of them cannot be used
to stop a thread: two because they report memory faults, two because no handler can catch them.
-/
namespace VmHost

/-- The names of the signals, the first one for number 1. -/
def signalNames : List String :=
  ["SIGHUP", "SIGINT", "SIGQUIT", "SIGILL", "SIGTRAP", "SIGABRT", "SIGBUS", "SIGFPE", "SIGKILL",
    "SIGUSR1", "SIGSEGV", "SIGUSR2", "SIGPIPE", "SIGALRM", "SIGTERM", "SIGSTKFLT", "SIGCHLD",
    "SIGCONT", "SIGSTOP", "SIGTSTP", "SIGTTIN", "SIGTTOU", "SIGURG", "SIGXCPU", "SIGXFSZ",
    "SIGVTALRM", "SIGPROF", "SIGWINCH", "SIGIO", "SIGPWR", "SIGSYS"]

structure Signal where
  number : Nat
  named : 1 ≤ number ∧ number ≤ 31 := by decide
  deriving DecidableEq, Repr

namespace Signal

def abort : Signal := ⟨6, by decide⟩
def bus : Signal := ⟨7, by decide⟩
def kill : Signal := ⟨9, by decide⟩
def segv : Signal := ⟨11, by decide⟩
def usr2 : Signal := ⟨12, by decide⟩
def stop : Signal := ⟨19, by decide⟩

def name (s : Signal) : String := (signalNames[s.number - 1]?).getD ""

def ofNumber? (n : Int) : Option Signal :=
  if h : 1 ≤ n.toNat ∧ n.toNat ≤ 31 then some ⟨n.toNat, h⟩ else none

/-- The signal of a number, or the refusal of a number that is none.
mirrors `parse_signal` -/
def parse (n : Int) : Except Error Signal :=
  match ofNumber? n with
  | some s => .ok s
  | none => .error (.invalidArgument "unknown signal number")

/-- The signals that cannot stop a thread for inspection. -/
def unusable : List Signal := [segv, bus, kill, stop]

/-- The signal can stop a thread for inspection. -/
def isUsable (s : Signal) : Bool := !unusable.contains s

end Signal
end VmHost
