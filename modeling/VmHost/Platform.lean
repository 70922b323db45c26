import VmHost.Config
import VmHost.Inspect.Inspector

/-!
# Platforms

A platform is a configuration that has been accepted, with an inspector made from it. Setting one up
prepares the log, and makes it show debug messages if the configuration asks for that.
-/
namespace VmHost

/-- A configuration that has been put into force.
mirrors `System` -/
structure Platform where
  config : Config
  inspector : Inspect.Inspector
  deriving DecidableEq, Repr

namespace Platform

/-- The log as a configuration wants it. -/
def prepareLog (h : Host) (c : Config) : Host :=
  let h := h.configure .prepare
  if c.verbose then h.configure (.setLevel .debug) else h

/-- Puts a configuration into force; one that is not accepted changes nothing.
mirrors `System.new` -/
def create (h : Host) (c : Config) : Except Error Platform × Host :=
  match c.validate with
  | .error e => (.error e, h)
  | .ok () =>
    let h := prepareLog h c
    match Inspect.Inspector.create h c.inspectSignal c.inspectTimeout with
    | .error e => (.error e, h)
    | .ok (inspector, h) =>
      (.ok ⟨c, inspector⟩,
        h.log .debug ("system ready (inspect signal " ++ toString c.inspectSignal ++ ")"))

/-- The process after the standard configuration has been put into force. -/
def furnish (h : Host) : Host := (create h .standard).2

def debug (s : Platform) : String := Text.openRecord "System" [("config", s.config.debug)]

end Platform
end VmHost
