import VmHost.Fault.Machine

/-!
# Interceptors

Handlers are registered through interceptors. An interceptor has a number, by which a registration
belongs to the interceptor that it was made through, and a bound for the frames in the snapshots of
declined faults. The numbers are words and are given out in turn, so that the same number comes again
only after all others.
-/
namespace VmHost.Fault

/-- A handle for registering handlers.
mirrors `FaultInterceptor` -/
structure Interceptor where
  number : UInt64
  maxFrames : UInt64
  deriving DecidableEq, Repr

/-- What all interceptors of a process share. -/
structure Registry where
  faults : State
  /-- The number of the next interceptor. -/
  next : UInt64

namespace Registry

def start (faults : State) : Registry := ⟨faults, 1⟩

/-- Creates an interceptor.
mirrors `FaultInterceptor.new` -/
def create (r : Registry) (maxFrames : UInt64) : Interceptor × Registry :=
  (⟨r.next, maxFrames⟩, { r with next := r.next + 1 })

def perform (r : Registry) (o : OsThread) (j : Job) : Option Answer × Registry :=
  let (answer, faults) := r.faults.call o j
  (answer, { r with faults := faults })

/-- Registers a handler; declined faults leave snapshots in the directory.
mirrors `FaultInterceptor.install` -/
def install (r : Registry) (o : OsThread) (i : Interceptor) (handler : Handler)
    (dir : Option Bytes) : Option Answer × Registry :=
  r.perform o (.install i.number handler dir i.maxFrames)

/-- Removes the handler that was registered through an interceptor.
mirrors `FaultInterceptor.uninstall` -/
def uninstall (r : Registry) (o : OsThread) (i : Interceptor) : Option Answer × Registry :=
  r.perform o (.uninstall i.number)

/-- Asks whether the registered handler was registered through an interceptor.
mirrors `FaultInterceptor.owns_registration` -/
def owns (r : Registry) (o : OsThread) (i : Interceptor) : Option Answer × Registry :=
  r.perform o (.owns i.number)

/-- Disposes of an interceptor.
mirrors `FaultInterceptor.drop` -/
def dispose (r : Registry) (o : OsThread) (i : Interceptor) : Option Answer × Registry :=
  r.perform o (.dispose i.number)

end Registry
end VmHost.Fault
