import VmHost.Monitor.Basic
import VmHost.Violation

/-!
# Commands and results of a session

In a session, workers obey a controller. A command for a worker is an operation on a monitor, a
short script of such operations, an operation on a plain lock, a join, an inspection, or something
about the worker itself. The controller also does a few things on its own OS thread.
-/
namespace VmHost.Session

inductive Result
  /-- It could not be given: the worker or the identity is still in another one. -/
  | busy
  /-- The worker, monitor or lock is gone. -/
  | gone
  /-- It has not ended yet. -/
  | blocked
  | ok
  | reply (r : Monitor.Reply)
  /-- The end of a wait, and the depth that was left after it. -/
  | left (interrupted : Bool) (depth : Nat)
  | owner (i : Option Identity)
  | text (s : String)
  /-- The name that a worker was given, if any. -/
  | name (given : Option String)
  | joined (outcome : Except Error Unit)
  /-- The outcome of a visit, the number of calls of the visitor, and whether what it saw can be the
  registers of a running thread. -/
  | visited (outcome : Except Error Unit) (calls : Nat) (sane : Bool)
  /-- A stop: the registers did not change by themselves, new ones read back, and so did the old
  ones; with the handle as a record while the new ones were set. -/
  | suspended (same set back : Bool) (debug : String)
  | failed (e : Error)

/-- A sequence of operations on monitors, each of which may depend on the answers before it. -/
inductive Script
  | answer (r : Result)
  | call (c : Monitor.Call) (next : Monitor.Reply → Script)

namespace Script

def once (c : Monitor.Call) : Script := .call c fun r => .answer (.reply r)

def countOf : Monitor.Reply → Nat
  | .count n => n
  | _ => 0

/-- Leaves a monitor a number of times. -/
def leave (m : MonitorId) (r : Result) : Nat → Script
  | 0 => .answer r
  | n + 1 => .call (.release m) fun _ => leave m r n

/-- Waits, and then leaves the monitor completely. -/
def waitLeave (m : MonitorId) (ms : Nat) : Script :=
  .call (.wait m ms) fun w => .call (.depth m) fun d =>
    leave m (.left (w = .bool true) (countOf d)) (countOf d)

/-- Enters a monitor, and then leaves it completely. -/
def sync (m : MonitorId) : Script :=
  .call (.acquire m) fun _ => .call (.depth m) fun d => leave m (.reply d) (countOf d)

end Script

/-- What a command works on and may block in. -/
inductive Object
  | monitor (m : MonitorId)
  | lock (l : Nat)
  deriving DecidableEq, Repr

/-- A command for a worker. -/
inductive Command
  | call (c : Monitor.Call)
  | waitLeave (m : MonitorId) (ms : Nat)
  | sync (m : MonitorId)
  | lock (l : Nat)
  | tryLock (l : Nat)
  | unlock (l : Nat)
  /-- Takes a lock and releases it at once. -/
  | guard (l : Nat)
  /-- Ends the worker's task, by a return or by a panic. -/
  | stop (panicked : Bool)
  | join (target : Identity)
  | visit (target : Identity)
  | suspend (target : Identity)
  /-- Keeps the inspection signal out of the worker, or lets it in again. -/
  | mask (on : Bool)
  | name
  /-- Asks whether the identity belongs to the worker's OS thread. -/
  | isCurrent
  deriving DecidableEq, Repr

def objectOfCall : Monitor.Call → Option Object
  | .acquire m | .tryAcquire m | .release m | .wait m _ | .notify m | .notifyAll m | .depth m
  | .waiterCount m | .dispose m => some (.monitor m)
  | .interrupt _ | .query .. => none

def Command.object? : Command → Option Object
  | .call c => objectOfCall c
  | .waitLeave m _ | .sync m => some (.monitor m)
  | .lock l | .tryLock l | .unlock l | .guard l => some (.lock l)
  | .stop _ | .join _ | .visit _ | .suspend _ | .mask _ | .name | .isCurrent => none

/-- The time limit of the wait in a command; zero without one. -/
def Command.limit : Command → Nat
  | .call (.wait _ ms) | .waitLeave _ ms => ms
  | _ => 0

/-- Something that the controller does on its own OS thread. -/
inductive Deed
  | interrupt (target : Identity)
  | query (target : Identity) (q : Monitor.Query)
  | stage (target : Identity)
  | isAttached (target : Identity)
  | isCurrent (target : Identity)
  | hasNative (target : Identity)
  | debug (target : Identity)
  | park (target : Identity)
  | join (target : Identity)
  | owner (m : MonitorId)
  | debugMonitor (m : MonitorId)
  | drop (x : Object)
  deriving DecidableEq, Repr

def Deed.object? : Deed → Option Object
  | .owner m | .debugMonitor m => some (.monitor m)
  | .drop x => some x
  | _ => none

inductive Step
  /-- A worker gets a command, in the name of an identity. -/
  | worker (t : OsThread) (who : Identity) (c : Command)
  | controller (d : Deed)
  deriving DecidableEq, Repr

end VmHost.Session
