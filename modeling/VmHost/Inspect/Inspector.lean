import VmHost.Host
import VmHost.Span
import VmHost.Text.Record

/-!
# Inspectors

An inspector stops threads with a signal of its choice and waits for them no longer than its
timeout. The handler for a signal is installed once in a process, whoever asks for it first.
-/
namespace VmHost.Inspect

/-- The signal and the patience of an inspector.
mirrors `ThreadInspector` -/
structure Inspector where
  signal : Signal
  timeout : Span
  deriving DecidableEq, Repr

/-- Why a signal cannot be used. -/
def unusable : Error := .invalidArgument "signal cannot be used for inspection"

/-- The signal of a number, if it can stop threads. -/
def usableSignal (number : Int) : Except Error Signal :=
  match Signal.parse number with
  | .ok s => if s.isUsable then .ok s else .error unusable
  | .error e => .error e

namespace Inspector

/-- Installs the handler for a signal unless that has been done. -/
def install (h : Host) (s : Signal) : Host :=
  if h.inspectSignals.contains s then h
  else
    { h with inspectSignals := s :: h.inspectSignals }.log .debug
      ("inspection handler installed on " ++ s.name)

/-- An inspector for the signal of this number.
mirrors `ThreadInspector.new` -/
def create (h : Host) (number : Int) (timeout : Span) : Except Error (Inspector × Host) :=
  match usableSignal number with
  | .ok s => .ok (⟨s, timeout⟩, install h s)
  | .error e => .error e

def debug (i : Inspector) : String :=
  Text.record "ThreadInspector" [("signal", i.signal.name), ("timeout", i.timeout.text)]

end Inspector
end VmHost.Inspect
