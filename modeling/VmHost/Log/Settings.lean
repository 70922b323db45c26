import VmHost.Environment
import VmHost.Log.Level

/-!
# Log settings

The threshold and the flush switch of a process. The environment is read when they are first
needed, at most once, and never after the threshold has been set by hand. Each operation is a
function of the environment and the settings before it that returns its answer with the settings
after it.
-/
namespace VmHost.Log

/-- The settings of the log, and whether the environment no longer matters. -/
structure Settings where
  level : Level
  flush : Bool
  ready : Bool
  deriving DecidableEq, Repr

namespace Settings

def start : Settings := ⟨.info, false, false⟩

def flushVariable : String := "HOSTSYS_FLUSH_EPRINT"

def levelVariable : String := "HOSTSYS_LOG_LEVEL"

/-- The settings that the environment asks for; a threshold that it does not name stays. -/
def load (env : Environment) (s : Settings) : Settings where
  level := (env.read? levelVariable Level.parse?).getD s.level
  flush := env.switch flushVariable false
  ready := true

/-- Reads the environment unless that has been done or is no longer wanted.
mirrors `init` -/
def prepare (env : Environment) (s : Settings) : Settings := if s.ready then s else s.load env

/-- Sets the threshold by hand.
mirrors `set_log_level` -/
def setLevel (level : Level) (s : Settings) : Settings := { s with level := level, ready := true }

/-- Sets the flush switch by hand.
mirrors `set_flush_enabled` -/
def setFlush (flush : Bool) (s : Settings) : Settings := { s with flush := flush }

end Settings

inductive Op
  | prepare
  | level
  | flush
  | enabled (l : Level)
  | setLevel (l : Level)
  | setFlush (b : Bool)
  /-- Prints a line without a level. -/
  | print
  /-- Logs a line of a level. -/
  | log (l : Level)
  deriving DecidableEq, Repr

inductive Answer
  | done
  | level (l : Level)
  | bool (value : Bool)
  deriving DecidableEq, Repr

/-- The operation looks at the settings, so that the environment is read before it if need be. A
message of level off is dropped unseen. -/
def Op.looks : Op → Bool
  | .prepare | .level | .flush | .print => true
  | .enabled l | .log l => l ≠ .off
  | .setLevel _ | .setFlush _ => false

def Op.after (env : Environment) (op : Op) (s : Settings) : Settings :=
  let seen := if op.looks then s.prepare env else s
  match op with
  | .setLevel l => seen.setLevel l
  | .setFlush b => seen.setFlush b
  | _ => seen

/-- The answer of an operation: for a line, whether it is written. -/
def Op.answer (env : Environment) (op : Op) (s : Settings) : Answer :=
  let seen := if op.looks then s.prepare env else s
  match op with
  | .level => .level seen.level
  | .flush => .bool seen.flush
  | .enabled l => .bool (l.shownAt seen.level)
  | .log l => .bool (l.shownAt seen.level)
  | .print => .bool true
  | .prepare | .setLevel _ | .setFlush _ => .done

/-- The operation reads the environment. -/
def Op.reads (op : Op) (s : Settings) : Bool := op.looks && !s.ready

end VmHost.Log
