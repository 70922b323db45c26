import VmHost.Error

/-!
# Violations

A caller that breaks a rule which only a bug can break (to leave a monitor it does not own, to stop
itself, to dispose of what is in use) ends the process. A violation names the rule.
-/
namespace VmHost

/-- The rule that a caller broke.
mirrors `Violation` -/
inductive Violation
  /-- An operation on a monitor by a thread that does not own it. -/
  | notOwner (operation : String)
  /-- A lock was released by a thread that does not hold it. -/
  | lockNotHeld
  /-- A thread asked to stop itself. -/
  | selfInspection
  /-- Something was disposed of while it was in use. -/
  | disposedInUse (what : String)
  /-- The operating system answered as its contract rules out, with this code. -/
  | unexpected (operation : String) (code : Int)
  deriving DecidableEq, Repr

namespace Violation

def message : Violation → String
  | .notOwner operation => operation ++ " called by a thread that does not own the monitor"
  | .lockNotHeld => "lock released by a thread that does not hold it"
  | .selfInspection => "thread attempted to inspect itself"
  | .disposedInUse what => what ++ " disposed while in use"
  | .unexpected operation code =>
    operation ++ " failed unexpectedly (code " ++ toString code ++ ")"

def debug : Violation → String
  | .notOwner operation => Text.tagged "NotOwner" (Error.quoted operation)
  | .lockNotHeld => "LockNotHeld"
  | .selfInspection => "SelfInspection"
  | .disposedInUse what => Text.tagged "DisposedInUse" (Error.quoted what)
  | .unexpected operation code =>
    Text.tagged "Os" (Error.quoted operation ++ ", " ++ toString code)

end Violation
end VmHost
