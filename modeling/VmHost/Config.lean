import VmHost.Environment
import VmHost.Error
import VmHost.Signal
import VmHost.Span
import VmHost.Text.Quoted

/-!
# Configuration

Six settings of the host, with defaults, readings from the environment, and one function for each
setting that replaces it. `validate` names the first rule that a configuration breaks.
-/
namespace VmHost

/-- The settings of the host.
mirrors `SystemConfig` -/
structure Config where
  /-- Where snapshots of crashes go; none are written without it. -/
  dumpDir : Option Bytes
  /-- The stack of a started thread in bytes; zero leaves it to the platform. -/
  stackSize : UInt64
  /-- The signal that stops a thread for inspection. -/
  inspectSignal : Int
  /-- How long a suspend waits for its target. -/
  inspectTimeout : Span
  /-- How many frames a snapshot shows. -/
  maxFrames : UInt64
  /-- Whether debug messages are logged. -/
  verbose : Bool
  deriving DecidableEq, Repr

namespace Config

def minStackSize : UInt64 := 65536

def frameLimit : UInt64 := 1024

/-- The settings if nobody says otherwise.
mirrors `SystemConfig.default` -/
def standard : Config where
  dumpDir := none
  stackSize := 0
  inspectSignal := 12
  inspectTimeout := Span.ofMillis 5000
  maxFrames := 64
  verbose := false

def word? (env : Environment) (name : String) : Option UInt64 :=
  (env.read? name (Text.intOf? (.unsigned 64))).map fun i => i.toNat.toUInt64

/-- The settings that the environment asks for, the standard ones where it asks for none.
mirrors `SystemConfig.from_env` -/
def ofEnvironment (env : Environment) : Config where
  dumpDir := env.path? "HOSTSYS_CRASH_DUMP_DIR"
  stackSize := (word? env "HOSTSYS_THREAD_STACK_SIZE").getD standard.stackSize
  inspectSignal :=
    (env.read? "HOSTSYS_INSPECT_SIGNAL" (Text.intOf? (.signed 31))).getD standard.inspectSignal
  inspectTimeout :=
    ((word? env "HOSTSYS_INSPECT_TIMEOUT_MS").map Span.ofMillis).getD standard.inspectTimeout
  maxFrames := (word? env "HOSTSYS_SNAPSHOT_MAX_FRAMES").getD standard.maxFrames
  verbose := env.switch "HOSTSYS_VERBOSE" standard.verbose

/-- A rule that a configuration can break. -/
inductive Problem
  | stackTooSmall
  | signalNotPositive
  | signalUnusable
  | timeoutZero
  | framesOutOfRange
  | dumpDirUnusable
  deriving DecidableEq, Repr

def Problem.message : Problem → String
  | .stackTooSmall => "thread_stack_size must be 0 or >= 64KB"
  | .signalNotPositive => "inspect_signal must be a positive signal number"
  | .signalUnusable => "inspect_signal cannot be SIGSEGV, SIGBUS, SIGKILL or SIGSTOP"
  | .timeoutZero => "inspect_timeout must be > 0"
  | .framesOutOfRange => "snapshot_max_frames must be in 1..=1024"
  | .dumpDirUnusable => "crash_dump_dir must be a non-empty UTF-8 path"

def Problem.toError (p : Problem) : Error := .config p.message

/-- Every rule with the test that breaks it, in the order of their tests. -/
def rules (c : Config) : List (Problem × Bool) :=
  [(.stackTooSmall, c.stackSize ≠ 0 && c.stackSize < minStackSize),
    (.signalNotPositive, c.inspectSignal ≤ 0),
    (.signalUnusable, (Signal.unusable.map fun s => (s.number : Int)).contains c.inspectSignal),
    (.timeoutZero, c.inspectTimeout.isZero),
    (.framesOutOfRange, c.maxFrames == 0 || frameLimit < c.maxFrames),
    (.dumpDirUnusable, c.dumpDir.any fun dir => dir.isEmpty || !Text.isUtf8 dir)]

/-- The first rule that the configuration breaks. -/
def problem? (c : Config) : Option Problem := (c.rules.find? (·.2)).map (·.1)

/-- Accepts a configuration that breaks no rule.
mirrors `SystemConfig.validate` -/
def validate (c : Config) : Except Error Unit :=
  match c.problem? with
  | some p => .error p.toError
  | none => .ok ()

/-- The directory as a value that may be missing. -/
def dumpDirText (c : Config) : String :=
  Text.optional (c.dumpDir.map fun dir => String.ofList (Text.quoteBytes dir))

def boolText (b : Bool) : String := if b then "true" else "false"

/-- Every setting by its name, as text. -/
def fields (c : Config) : List (String × String) :=
  [("crash_dump_dir", c.dumpDirText),
    ("thread_stack_size", toString c.stackSize.toNat),
    ("inspect_signal", toString c.inspectSignal),
    ("inspect_timeout", c.inspectTimeout.text),
    ("snapshot_max_frames", toString c.maxFrames.toNat),
    ("verbose", boolText c.verbose)]

def debug (c : Config) : String := Text.record "SystemConfig" c.fields

/-- The width of the column in which the values of a report begin. -/
def valueColumn : Nat := 22

/-- One line of a report: the name of a setting, and its value in the value column. -/
def reportLine (field : String × String) : String :=
  let label := field.1 ++ ":"
  "  " ++ label ++ String.ofList (List.replicate (valueColumn - label.length) ' ') ++ field.2

/-- The lines of a report of the settings.
mirrors `SystemConfig.print` -/
def report (c : Config) : List String := "hostsys configuration:" :: c.fields.map reportLine

end Config
end VmHost
