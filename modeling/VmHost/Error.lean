import VmHost.Text.Quoted
import VmHost.Text.Record

/-!
# Errors

What an operation of the host can fail with, as causes. `message` is the wording, `status` the
number that stands for the kind of error where only a number fits; success is the number zero.
-/
namespace VmHost

/-- A resource that only the operating system can create. -/
inductive Resource
  | lock
  | event
  | thread
  | memory
  | signalHandler
  deriving DecidableEq, Repr

def Resource.text : Resource → String
  | .lock => "lock"
  | .event => "event"
  | .thread => "thread"
  | .memory => "memory"
  | .signalHandler => "signal handler"

def Resource.name : Resource → String
  | .lock => "Lock"
  | .event => "Event"
  | .thread => "Thread"
  | .memory => "Memory"
  | .signalHandler => "SignalHandler"

/-- The operating system refused to create a resource, with this error number.
mirrors `ResourceError` -/
structure Shortage where
  resource : Resource
  errno : Int
  deriving DecidableEq, Repr

namespace Shortage

def message (s : Shortage) : String :=
  "failed to create " ++ s.resource.text ++ " (errno " ++ toString s.errno ++ ")"

def debug (s : Shortage) : String :=
  Text.record "ResourceError" [("resource", s.resource.name), ("errno", toString s.errno)]

end Shortage

/-- Why an operation of the host failed.
mirrors `SysError` -/
inductive Error
  /-- The operating system refused to create a resource. -/
  | exhausted (shortage : Shortage)
  /-- A fault handler is registered already. -/
  | alreadyInstalled
  /-- The caller has no fault handler registered. -/
  | notInstalled
  /-- The target thread has run to its end. -/
  | threadFinished
  /-- The target thread could not be stopped, with this error number. -/
  | suspendFailed (errno : Int)
  /-- The machine cannot do what was asked for. -/
  | unsupported (what : String)
  /-- The operation cannot accept an argument. -/
  | invalidArgument (what : String)
  /-- The configuration is not acceptable. -/
  | config (what : String)
  deriving DecidableEq, Repr

namespace Error

/-- The number of a kind of error, never zero.
mirrors `SysError.status` -/
def status : Error → Nat
  | .exhausted _ => 1
  | .alreadyInstalled => 2
  | .notInstalled => 3
  | .threadFinished => 4
  | .suspendFailed _ => 5
  | .unsupported _ => 6
  | .invalidArgument _ => 7
  | .config _ => 8

def message : Error → String
  | .exhausted s => "resource exhausted: " ++ s.message
  | .alreadyInstalled => "fault handler already installed"
  | .notInstalled => "fault handler not installed"
  | .threadFinished => "thread has finished"
  | .suspendFailed errno => "failed to suspend thread (errno " ++ toString errno ++ ")"
  | .unsupported what => "unsupported: " ++ what
  | .invalidArgument what => "invalid argument: " ++ what
  | .config what => "invalid config: " ++ what

def quoted (s : String) : String := String.ofList (Text.quote s.toList)

def debug : Error → String
  | .exhausted s => Text.tagged "ResourceExhausted" s.debug
  | .alreadyInstalled => "AlreadyInstalled"
  | .notInstalled => "NotInstalled"
  | .threadFinished => "ThreadFinished"
  | .suspendFailed errno => Text.tagged "SuspendFailed" (toString errno)
  | .unsupported what => Text.tagged "Unsupported" (quoted what)
  | .invalidArgument what => Text.tagged "InvalidArgument" (quoted what)
  | .config what => Text.tagged "Config" (quoted what)

theorem status_pos (e : Error) : 0 < e.status := by cases e <;> simp [status]

end Error

/-- The number that stands for an outcome: zero for success.
mirrors `status_of` -/
def statusOf {α : Type} : Except Error α → Nat
  | .ok _ => 0
  | .error e => e.status

end VmHost
