import VmHost.Log.Console
import VmHost.Signal
import VmHost.Violation

/-!
# The process around the runtime

What is shared by everything in one process: the console and the signals that stop a thread for
inspection. A process ends with a code or by a signal; a violation is reported on the console and
ends the process by the abort signal.
-/
namespace VmHost

inductive Exit
  | code (value : Nat)
  | signal (value : Signal)
  deriving DecidableEq, Repr

/-- The ending of a process that asked for it with a code: only the low eight bits remain. -/
def Exit.ofCode (code : Int) : Exit := .code (code % 256).toNat

/-- The state that a whole process shares. -/
structure Host where
  console : Log.Console
  /-- The signals with the inspection handler. -/
  inspectSignals : List Signal
  deriving DecidableEq, Repr

namespace Host

/-- The name of the OS thread on which a process begins. -/
def mainThread : String := "main"

/-- The threads of the runtime that were given no name are named after their number. -/
def threadName (id : Nat) : String := "hostsys-" ++ toString id

def start (env : Environment) : Host := ⟨.start env, []⟩

/-- Carries out an operation on the settings of the log. -/
def configure (h : Host) (op : Log.Op) : Host := { h with console := h.console.apply op }

/-- A process whose threshold has been set. -/
def startAt (level : Log.Level) : Host := (start .empty).configure (.setLevel level)

/-- The process goes on in another environment. -/
def inEnvironment (h : Host) (env : Environment) : Host :=
  { h with console := { h.console with env := env } }

/-- Logs a message from the OS thread of this name. -/
def logAs (h : Host) (thread : Option String) (level : Log.Level) (message : String) : Host :=
  { h with console := h.console.log level thread message }

/-- Logs a message from the OS thread on which the process began. -/
def log (h : Host) (level : Log.Level) (message : String) : Host :=
  h.logAs (some mainThread) level message

/-- Reports a violation, after which the process ends.
mirrors `contract_violation` -/
def violate (h : Host) (thread : Option String) (v : Violation) : Host :=
  h.logAs thread .error ("contract violation: " ++ v.message)

end Host
end VmHost
