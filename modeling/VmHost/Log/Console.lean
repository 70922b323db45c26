import VmHost.Log.Settings

/-!
# The console

The error output of a process and the settings of its log. A logged line starts with the tag of its
level and, if the OS thread that writes it has a name, the name in brackets.
-/
namespace VmHost.Log

/-- What a process has written to its error output, with its log settings and environment. -/
structure Console where
  env : Environment
  settings : Settings
  text : String
  deriving DecidableEq, Repr

namespace Console

def start (env : Environment) : Console := ⟨env, .start, ""⟩

def apply (c : Console) (op : Op) : Console := { c with settings := op.after c.env c.settings }

def answer (c : Console) (op : Op) : Answer := op.answer c.env c.settings

def level (c : Console) : Level := (c.settings.prepare c.env).level

def flush (c : Console) : Bool := (c.settings.prepare c.env).flush

/-- A message of the level would be written. -/
def isEnabled (c : Console) (level : Level) : Bool := c.answer (.enabled level) = .bool true

/-- Writes a line as it is.
mirrors `_kprintln_impl` -/
def print (c : Console) (line : String) : Console :=
  { c.apply .print with text := c.text ++ line ++ "\n" }

/-- A logged line without its end. -/
def line (level : Level) (thread : Option String) (message : String) : String :=
  match thread with
  | some name => level.tag ++ " [" ++ name ++ "] " ++ message
  | none => level.tag ++ " " ++ message

/-- Logs a message from the OS thread of this name.
mirrors `_klog_impl` -/
def log (c : Console) (level : Level) (thread : Option String) (message : String) : Console :=
  let c' := c.apply (.log level)
  if c.answer (.log level) = .bool true then
    { c' with text := c.text ++ line level thread message ++ "\n" }
  else c'

end Console
end VmHost.Log
