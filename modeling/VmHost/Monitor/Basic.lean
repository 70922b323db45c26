import VmHost.Row
import VmHost.Sync.Park

/-!
# Monitors

A monitor is a reentrant lock with a queue of waiting threads. It is built on a mutex: the mutex
belongs to an OS thread, while the monitor is owned by a thread of the runtime, its *identity*. The
depth counts how often the owner has entered. Threads wait in the order of their arrival.

A caller acts on an OS thread and names an identity; as a rule an identity is used on its own OS
thread only, but nothing enforces that.
-/
namespace VmHost

/-- A thread of the runtime, by its place among all of them. -/
abbrev Identity := Nat

/-- A monitor, by its place among all of them. -/
abbrev MonitorId := Nat

/-- The state of one monitor.
mirrors `Monitor` -/
structure Monitor where
  lock : Mutex
  owner : Option Identity
  depth : Nat
  /-- The waiting threads, the longest waiting one first. -/
  queue : List Identity
  deriving DecidableEq, Repr

namespace Monitor

def free : Monitor := ⟨.free, none, 0, []⟩

instance : Inhabited Monitor := ⟨free⟩

/-- The largest depth that a monitor can count. -/
def depthLimit : Nat := UInt32.size - 1

def isOwnedBy (m : Monitor) (i : Identity) : Bool := m.owner = some i

/-- What can be asked of the park cell of a thread. -/
inductive Query
  | flags
  | isInterrupted
  /-- Reads the pending interruption and clears it. -/
  | takeInterrupted
  deriving DecidableEq, Repr

/-- An operation on a monitor or on the park cell of a thread. -/
inductive Call
  | acquire (m : MonitorId)
  | tryAcquire (m : MonitorId)
  | release (m : MonitorId)
  /-- Waits for a number of milliseconds; zero means without an end. -/
  | wait (m : MonitorId) (ms : Nat)
  | notify (m : MonitorId)
  | notifyAll (m : MonitorId)
  | depth (m : MonitorId)
  | waiterCount (m : MonitorId)
  | dispose (m : MonitorId)
  | interrupt (target : Identity)
  | query (target : Identity) (q : Query)
  deriving DecidableEq, Repr

inductive Reply
  | done
  | bool (value : Bool)
  | count (value : Nat)
  | flags (value : Flags)
  deriving DecidableEq, Repr

/-- A wait in progress: the monitor, the time limit, and the depth to come back to. -/
structure Waiting where
  monitor : MonitorId
  ms : Nat
  saved : Nat
  deriving DecidableEq, Repr

/-- Where an OS thread stands: at a mutex, park cell or event operation that it is about to do. -/
inductive Point
  /-- Outside every operation, with the answer of the last one. -/
  | rest (reply : Option Reply)
  /-- Takes the mutex of a monitor to enter it. -/
  | entering (m : MonitorId)
  /-- Takes the mutex of a monitor to enter it, if that is free. -/
  | trying (m : MonitorId)
  /-- Has given the monitor up; releases its mutex. -/
  | leaving (m : MonitorId)
  /-- Takes its own park cell to begin a wait. -/
  | queueing (m : MonitorId) (ms : Nat)
  /-- Has consumed an interruption before waiting; releases its own park cell. -/
  | consuming
  /-- Has queued itself and given the monitor up; releases the mutex. -/
  | yielding (w : Waiting)
  /-- Resets its own event. -/
  | clearing (w : Waiting)
  /-- Releases its own park cell. -/
  | parking (w : Waiting)
  /-- Sleeps on its own event, since this time. -/
  | sleeping (w : Waiting) (since : Nat)
  /-- Has slept; takes its own park cell to see why it woke. -/
  | waking (w : Waiting)
  /-- Knows why it woke; releases its own park cell. -/
  | deciding (w : Waiting) (notified interrupted : Bool)
  /-- Takes the mutex of the monitor to come back. -/
  | reentering (w : Waiting) (notified interrupted : Bool)
  /-- Has taken waiting threads out of the queue; takes the park cell of the first one. -/
  | reaching (m : MonitorId) (first : Identity) (others : List Identity)
  /-- Signals the event of the first thread. -/
  | signalling (m : MonitorId) (first : Identity) (others : List Identity)
  /-- Releases the park cell of the first thread. -/
  | departing (m : MonitorId) (first : Identity) (others : List Identity)
  /-- Takes the park cell of a thread to interrupt it. -/
  | posting (target : Identity)
  /-- Signals the event of the interrupted thread, which is inside a wait. -/
  | rousing (target : Identity)
  /-- Releases the park cell of the interrupted thread. -/
  | posted (target : Identity)
  /-- Takes the park cell of a thread to ask it something. -/
  | asking (target : Identity) (q : Query)
  /-- Has an answer; releases the park cell. -/
  | answering (target : Identity) (reply : Reply)
  /-- Stopped by a depth that left the range of its counter. -/
  | overflowed
  deriving DecidableEq, Repr

instance : Inhabited Point := ⟨.rest none⟩

/-- An OS thread: the identity that it acts as, and where it stands. -/
structure Standing where
  who : Identity
  point : Point
  deriving DecidableEq, Repr, Inhabited

end Monitor
end VmHost
