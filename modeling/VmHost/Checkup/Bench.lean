import VmHost.Checkup.Sheet
import VmHost.Fault.Session

/-!
# The bench of a checkup

What a checkup works with: the platform under test in the first slot of a session of faults, whose
host is that of the whole process, and the number of threads so far.
-/
namespace VmHost.Checkup

/-- A platform under test. -/
structure Bench where
  platform : Platform
  /-- How many threads there have been. -/
  threads : Nat
  session : Fault.Session.State

namespace Bench

/-- The slot of the platform in the session. -/
def slot : Nat := 0

/-- The bench for a platform; the OS thread of the checkup becomes the first thread. -/
def start (h : Host) (p : Platform) (disk : Disk) (time : Snapshot.Time) : Bench where
  platform := p
  threads := 1
  session :=
    (Fault.Session.State.start (h.attachThread 1) .default disk time .none).fill slot
      p.config.maxFrames (.platform · p)

def host (b : Bench) : Host := b.session.host

def withHost (b : Bench) (h : Host) : Bench := { b with session := { b.session with host := h } }

def startThread (b : Bench) : Except Error Unit × Bench :=
  let id := b.threads + 1
  let (r, h) := b.host.startThread id b.platform.config.stackSize.toNat
  (r, { b with threads := id }.withHost h)

def command (b : Bench) (c : Fault.Session.Command) : Fault.Session.Result × Bench :=
  let (r, s) := b.session.step c
  (r, { b with session := s })

end Bench

/-- An outcome as it is shown when another one was expected. -/
def outcomeText : Except Error Unit → String
  | .ok () => "Ok(())"
  | .error e => Text.tagged "Err" e.debug

/-- A time, divided by the number of things that happened in it. -/
def each (millis count : Nat) (what : String) : Item :=
  .note ((Span.ofParts 0 (millis * 1000000 / count)).text ++ " per " ++ what)

end VmHost.Checkup
