import VmHost.Monitor.Basic
import VmHost.Violation

/-!
# Monitors under many threads

Any number of OS threads work on any number of monitors and park cells. One step is one operation
on a mutex, a park cell or an event, together with the code from there to the next such operation.
`step` says what a step does, or that it cannot be taken: an OS thread at a mutex that another one
holds has no step, and neither has one that sleeps on an event that is not signaled. A sleep with a
time limit may also end once the clock has passed the limit. The first violation ends everything.
-/
namespace VmHost.Monitor

structure State where
  /-- The clock, in milliseconds. -/
  now : Nat
  monitors : Row Monitor
  parks : Row Park
  threads : Row Standing
  /-- The violation that ended the process, and the OS thread that committed it. -/
  violation : Option (OsThread × Violation)
  deriving Repr

inductive Label
  /-- An OS thread begins an operation in the name of an identity. -/
  | call (o : OsThread) (i : Identity) (c : Call)
  /-- An OS thread does what it is about to do. -/
  | advance (o : OsThread)
  /-- The time limit of a sleep runs out. -/
  | giveUp (o : OsThread)
  /-- Time passes. -/
  | pass (ms : Nat)
  deriving DecidableEq, Repr

namespace State

def start : State := ⟨0, .empty, .empty, .empty, none⟩

def point (s : State) (o : OsThread) : Point := (s.threads.get o).point

/-- The identity that an OS thread acts as. -/
def who (s : State) (o : OsThread) : Identity := (s.threads.get o).who

def moveTo (s : State) (o : OsThread) (p : Point) : State :=
  { s with threads := s.threads.modify o fun t => { t with point := p } }

/-- An operation answers. -/
def finish (s : State) (o : OsThread) (r : Reply) : State := s.moveTo o (.rest (some r))

def onMonitor (s : State) (m : MonitorId) (f : Monitor → Monitor) : State :=
  { s with monitors := s.monitors.modify m f }

def onPark (s : State) (i : Identity) (f : Park → Park) : State :=
  { s with parks := s.parks.modify i f }

/-- An OS thread commits a violation. -/
def violate (s : State) (o : OsThread) (v : Violation) : State :=
  { s with violation := some (o, v) }

/-- Takes the mutex of a monitor and goes on; not possible while another OS thread holds it. -/
def lockMonitor (s : State) (o : OsThread) (m : MonitorId) (next : State → State) : Option State :=
  match (s.monitors.get m).lock.take o with
  | .taken lock => some (next (s.onMonitor m ({ · with lock := lock })))
  | .busy => none
  | .deadlock => some (s.violate o (.unexpected "pthread_mutex_lock" Mutex.deadlockCode))

/-- Releases the mutex of a monitor and goes on. -/
def unlockMonitor (s : State) (o : OsThread) (m : MonitorId) (next : State → State) : State :=
  match (s.monitors.get m).lock.release? o with
  | some lock => next (s.onMonitor m ({ · with lock := lock }))
  | none => s.violate o .lockNotHeld

/-- Takes a park cell and goes on; not possible while another OS thread holds it. -/
def lockPark (s : State) (o : OsThread) (i : Identity) (next : State → State) : Option State :=
  match (s.parks.get i).lock.take o with
  | .taken lock => some (next (s.onPark i ({ · with lock := lock })))
  | .busy => none
  | .deadlock => some (s.violate o (.unexpected "pthread_mutex_lock" Mutex.deadlockCode))

/-- Releases a park cell and goes on. -/
def unlockPark (s : State) (o : OsThread) (i : Identity) (next : State → State) : State :=
  match (s.parks.get i).lock.release? o with
  | some lock => next (s.onPark i ({ · with lock := lock }))
  | none => s.violate o .lockNotHeld

/-- The identity becomes the owner of a monitor at a depth.
mirrors `Monitor.take_ownership` -/
def own (s : State) (m : MonitorId) (i : Identity) (depth : Nat) : State :=
  s.onMonitor m ({ · with owner := some i, depth := depth })

/-- Enters a monitor once more. -/
def nest (s : State) (o : OsThread) (m : MonitorId) (r : Reply) : State :=
  if (s.monitors.get m).depth < depthLimit then
    (s.onMonitor m fun x => { x with depth := x.depth + 1 }).finish o r
  else s.moveTo o .overflowed

/-- Leaves a monitor once. The last time, the owner is cleared before the mutex is released.
mirrors `Monitor.release` -/
def unnest (s : State) (o : OsThread) (m : MonitorId) : State :=
  match (s.monitors.get m).depth with
  | 0 => s.moveTo o .overflowed
  | 1 => (s.onMonitor m ({ · with depth := 0, owner := none })).moveTo o (.leaving m)
  | d + 2 => (s.onMonitor m ({ · with depth := d + 1 })).finish o .done

/-- Delivers a notification to threads that have left the queue.
mirrors `Monitor.deliver` -/
def deliver (s : State) (o : OsThread) (m : MonitorId) : List Identity → State
  | [] => s.finish o .done
  | first :: others => s.moveTo o (.reaching m first others)

/-- The first critical section of a wait, with the own park cell taken: a pending interruption ends
the wait; otherwise the thread queues itself and gives the monitor up.
mirrors `Monitor.wait`, up to the release of the monitor -/
def enqueue (s : State) (o : OsThread) (m : MonitorId) (ms : Nat) : State :=
  let i := s.who o
  if (s.parks.get i).interrupted then
    (s.onPark i ({ · with interrupted := false })).moveTo o .consuming
  else
    let saved := (s.monitors.get m).depth
    ((s.onPark i ({ · with flags := .waiting })).onMonitor m fun x =>
      { x with queue := x.queue ++ [i], depth := 0, owner := none }).moveTo o
        (.yielding ⟨m, ms, saved⟩)

/-- The second critical section of a wait, with the own park cell taken: the flags say whether a
notification came, and a pending interruption is consumed.
mirrors `Monitor.wait`, after the sleep -/
def collect (s : State) (o : OsThread) (w : Waiting) : State :=
  let i := s.who o
  let p := s.parks.get i
  (s.onPark i ({ · with flags := .none, interrupted := false })).moveTo o
    (.deciding w p.isNotified p.interrupted)

/-- The end of a wait, with the mutex of the monitor taken: a thread that was not notified is still
in the queue and leaves it.
mirrors `Monitor.wait`, after the monitor has been taken again -/
def comeBack (s : State) (o : OsThread) (w : Waiting) (notified interrupted : Bool) : State :=
  let i := s.who o
  let s := if notified then s
    else s.onMonitor w.monitor fun x => { x with queue := x.queue.erase i }
  (s.own w.monitor i w.saved).finish o (.bool interrupted)

/-- An interruption reaches a park cell, which is taken. A thread inside a wait is woken.
mirrors `Thread.interrupt` -/
def interrupt (s : State) (o : OsThread) (t : Identity) : State :=
  let s := s.onPark t ({ · with interrupted := true })
  s.moveTo o (if (s.parks.get t).isWaiting then .rousing t else .posted t)

/-- A question reaches a park cell, which is taken. -/
def ask (s : State) (o : OsThread) (t : Identity) (q : Query) : State :=
  let p := s.parks.get t
  match q with
  | .flags => s.moveTo o (.answering t (.flags p.flags))
  | .isInterrupted => s.moveTo o (.answering t (.bool p.interrupted))
  | .takeInterrupted =>
    (s.onPark t ({ · with interrupted := false })).moveTo o (.answering t (.bool p.interrupted))

/-- Goes on only if the identity owns the monitor.
mirrors `Monitor.check_owner` -/
def asOwner (s : State) (o : OsThread) (i : Identity) (m : MonitorId) (operation : String)
    (next : State → State) : State :=
  if (s.monitors.get m).isOwnedBy i then next s else s.violate o (.notOwner operation)

/-- An OS thread begins an operation: everything up to its first mutex or park cell. -/
def begin (s : State) (o : OsThread) (i : Identity) (c : Call) : State :=
  let s := { s with threads := s.threads.set o ⟨i, .rest none⟩ }
  match c with
  | .acquire m =>
    if (s.monitors.get m).isOwnedBy i then s.nest o m .done else s.moveTo o (.entering m)
  | .tryAcquire m =>
    if (s.monitors.get m).isOwnedBy i then s.nest o m (.bool true) else s.moveTo o (.trying m)
  | .release m => s.asOwner o i m "release" (·.unnest o m)
  | .wait m ms => s.asOwner o i m "wait" (·.moveTo o (.queueing m ms))
  | .notify m => s.asOwner o i m "notify" fun s =>
    let q := (s.monitors.get m).queue
    (s.onMonitor m ({ · with queue := q.drop 1 })).deliver o m (q.take 1)
  | .notifyAll m => s.asOwner o i m "notify_all" fun s =>
    let q := (s.monitors.get m).queue
    (s.onMonitor m ({ · with queue := [] })).deliver o m q
  | .depth m => s.asOwner o i m "depth" fun s => s.finish o (.count (s.monitors.get m).depth)
  | .waiterCount m =>
    s.asOwner o i m "waiter_count" fun s => s.finish o (.count (s.monitors.get m).queue.length)
  | .dispose m =>
    if (s.monitors.get m).owner.isSome then s.violate o (.disposedInUse "monitor")
    else if (s.monitors.get m).lock.isHeld then s.violate o (.disposedInUse "lock")
    else s.finish o .done
  | .interrupt t => s.moveTo o (.posting t)
  | .query t q => s.moveTo o (.asking t q)

/-- An OS thread does what it is about to do. -/
def advance (s : State) (o : OsThread) : Option State :=
  let i := s.who o
  match s.point o with
  | .rest _ | .overflowed => none
  | .entering m => s.lockMonitor o m fun s => (s.own m i 1).finish o .done
  | .trying m =>
    match (s.monitors.get m).lock.take o with
    | .taken lock =>
      some (((s.onMonitor m ({ · with lock := lock })).own m i 1).finish o (.bool true))
    | .busy | .deadlock => some (s.finish o (.bool false))
  | .leaving m => some (s.unlockMonitor o m (·.finish o .done))
  | .queueing m ms => s.lockPark o i (·.enqueue o m ms)
  | .consuming => some (s.unlockPark o i (·.finish o (.bool true)))
  | .yielding w => some (s.unlockMonitor o w.monitor (·.moveTo o (.clearing w)))
  | .clearing w => some ((s.onPark i ({ · with signaled := false })).moveTo o (.parking w))
  | .parking w => some (s.unlockPark o i (·.moveTo o (.sleeping w s.now)))
  | .sleeping w _ => if (s.parks.get i).signaled then some (s.moveTo o (.waking w)) else none
  | .waking w => s.lockPark o i (·.collect o w)
  | .deciding w notified interrupted =>
    some (s.unlockPark o i (·.moveTo o (.reentering w notified interrupted)))
  | .reentering w notified interrupted =>
    s.lockMonitor o w.monitor (·.comeBack o w notified interrupted)
  | .reaching m t others => s.lockPark o t fun s =>
    (s.onPark t fun p => { p with flags := p.flags.union .notified }).moveTo o
      (.signalling m t others)
  | .signalling m t others =>
    some ((s.onPark t ({ · with signaled := true })).moveTo o (.departing m t others))
  | .departing m t others => some (s.unlockPark o t (·.deliver o m others))
  | .posting t => s.lockPark o t (·.interrupt o t)
  | .rousing t => some ((s.onPark t ({ · with signaled := true })).moveTo o (.posted t))
  | .posted t => some (s.unlockPark o t (·.finish o .done))
  | .asking t q => s.lockPark o t (·.ask o t q)
  | .answering t reply => some (s.unlockPark o t (·.finish o reply))

/-- The sleep of an OS thread ends by its time limit. -/
def giveUp (s : State) (o : OsThread) : Option State :=
  match s.point o with
  | .sleeping w since =>
    if w.ms ≠ 0 ∧ since + w.ms ≤ s.now then some (s.moveTo o (.waking w)) else none
  | _ => none

/-- What happens at a label, if it can happen. -/
def step (s : State) (l : Label) : Option State :=
  if s.violation.isSome then none
  else
    match l with
    | .call o i c =>
      match s.point o with
      | .rest _ => some (s.begin o i c)
      | _ => none
    | .advance o => s.advance o
    | .giveUp o => s.giveUp o
    | .pass ms => some { s with now := s.now + ms }

inductive Reachable (s₀ : State) : State → Prop
  | refl : Reachable s₀ s₀
  | step {s t : State} (l : Label) : Reachable s₀ s → s.step l = some t → Reachable s₀ t

end State
end VmHost.Monitor
