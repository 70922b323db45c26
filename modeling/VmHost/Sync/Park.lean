import VmHost.Sync.Mutex
import VmHost.Thread.Flags

/-!
# Park cells

Every thread of the runtime has a park cell: the place where it sleeps during a wait. A private
mutex guards its wait flags and its pending interruption; beside them stands a manual-reset event,
which stays signaled until it is reset.
-/
namespace VmHost

/-- The park cell of one thread.
mirrors `ParkSignal` and `ParkState` -/
structure Park where
  lock : Mutex
  flags : Flags
  interrupted : Bool
  /-- The event that the thread sleeps on is signaled. -/
  signaled : Bool
  deriving DecidableEq, Repr

namespace Park

/-- A cell that nobody has used. -/
def idle : Park := ⟨.free, .none, false, false⟩

instance : Inhabited Park := ⟨idle⟩

def isWaiting (p : Park) : Bool := p.flags.contains .waiting

/-- A notification has reached the thread. -/
def isNotified (p : Park) : Bool := p.flags.contains .notified

/-- An operation on a cell by a thread that is alone with it. -/
inductive Op
  | signal
  | reset
  /-- Sleeps until the event is signaled or a time limit runs out. -/
  | wait
  | setFlags (flags : Flags)
  | setInterrupted (value : Bool)
  deriving DecidableEq, Repr

/-- Does an operation; a wait answers whether the event was signaled. -/
def perform (p : Park) : Op → Option Bool × Park
  | .signal => (none, { p with signaled := true })
  | .reset => (none, { p with signaled := false })
  | .wait => (some p.signaled, p)
  | .setFlags flags => (none, { p with flags := flags })
  | .setInterrupted value => (none, { p with interrupted := value })

/-- The guarded part of the cell as a record. -/
def stateDebug (p : Park) : String :=
  Text.record "ParkState"
    [("flags", p.flags.debug), ("interrupted", if p.interrupted then "true" else "false")]

/-- The cell as a record; only the event is shown. -/
def debug (p : Park) : String :=
  Text.openRecord "ParkSignal" [("signaled", if p.signaled then "true" else "false")]

end Park
end VmHost
