import VmHost.Text.Blank

/-!
# Log levels

Six levels in order, from off, which is no level of a message, to trace, which shows everything.
-/
namespace VmHost.Log

/-- How much is logged, or how important a message is.
mirrors `LogLevel` -/
inductive Level
  | off
  | error
  | warn
  | info
  | debug
  | trace
  deriving DecidableEq, Repr, Inhabited

namespace Level

/-- The place of a level in the order. -/
def number : Level → Nat
  | .off => 0
  | .error => 1
  | .warn => 2
  | .info => 3
  | .debug => 4
  | .trace => 5

/-- The level at a place; every place after the last one is the last.
mirrors `LogLevel.from_u8` -/
def ofNumber : Nat → Level
  | 0 => .off
  | 1 => .error
  | 2 => .warn
  | 3 => .info
  | 4 => .debug
  | _ => .trace

def name : Level → String
  | .off => "Off"
  | .error => "Error"
  | .warn => "Warn"
  | .info => "Info"
  | .debug => "Debug"
  | .trace => "Trace"

/-- What a line of this level starts with; all of the same width.
mirrors `LogLevel.prefix` -/
def tag : Level → String
  | .off => ""
  | .error => "[ERROR]"
  | .warn => "[WARN] "
  | .info => "[INFO] "
  | .debug => "[DEBUG]"
  | .trace => "[TRACE]"

/-- Every level with the two words for it. -/
def words : List (Level × List Char × List Char) :=
  [(.off, "off".toList, ['0']), (.error, "error".toList, ['1']), (.warn, "warn".toList, ['2']),
    (.info, "info".toList, ['3']), (.debug, "debug".toList, ['4']), (.trace, "trace".toList, ['5'])]

/-- The level that a text names: its name in small or capital letters or its number, with blanks
around it or without.
mirrors `LogLevel.parse` -/
def parse? (cs : List Char) : Option Level :=
  let word := Text.lowerAscii (Text.trim cs)
  (words.find? fun w => word = w.2.1 || word = w.2.2).map (·.1)

/-- A message of level `message` is shown at level `threshold`. -/
def shownAt (message threshold : Level) : Bool :=
  message ≠ .off && message.number ≤ threshold.number

theorem ofNumber_number (l : Level) : ofNumber l.number = l := by cases l <;> rfl

end Level
end VmHost.Log
