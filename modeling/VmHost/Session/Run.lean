import VmHost.Session.State

/-!
# Running a session

A step gives one command and then lets everything happen that can happen: of the threads that can
do something, the first one does it, until none can. A wait with a short time limit ends by that
limit within the step; a wait with a long one never does. A violation ends the session at once.
-/
namespace VmHost.Session

namespace State

def isOver (s : State) : Bool := s.violation.isSome

def violate (s : State) (o : OsThread) (v : Violation) : State :=
  { s with
    violation := some (o, v)
    host := s.host.violate (some (s.threadName o)) v }

/-- Puts the monitors back, with the violation that may have happened there. -/
def withMonitors (s : State) (m : Monitor.State) : State :=
  match m.violation with
  | some (o, v) => { s with monitors := m }.violate o v
  | none => { s with monitors := m }

def endJob (s : State) (t : OsThread) (r : Result) : State :=
  { s with jobs := s.jobs.set t none, ended := s.ended ++ [(t, r)] }

/-- A worker goes on with a script. -/
def proceed (s : State) (t : OsThread) (p : Pending) : Script → State
  | .answer r => s.endJob t r
  | .call c next =>
    match s.monitors.step (.call t p.who c) with
    | some m => { s with jobs := s.jobs.set t (some { p with job := .script next }) }.withMonitors m
    | none => s

/-- A worker takes a plain lock, if it is free. -/
def takeLock (s : State) (t : OsThread) (l : Nat) (guard : Bool) : Option State :=
  match (s.locks.get l).take t with
  | .taken lock =>
    some ({ s with locks := if guard then s.locks else s.locks.set l lock }.endJob t (.reply .done))
  | .busy => none
  | .deadlock => some (s.violate t (.unexpected "pthread_mutex_lock" Mutex.deadlockCode))

/-- A joining OS thread does something, if it can. A panic of the joined thread is worth a
warning. -/
def joinStep (s : State) (o : OsThread) (target : Identity) : Option State :=
  match (s.lives.get target).step (.joiner o) with
  | none => none
  | some l =>
    let s := { s with lives := s.lives.set target l }
    match l.joiners.get o with
    | .marking true => some
        (s.logAs o .warn ("thread " ++ toString (State.idOf target) ++ " panicked"))
    | _ => some s

/-- The outcome of a join that has ended. -/
def joinOutcome? (s : State) (o : OsThread) (target : Identity) : Option (Except Error Unit) :=
  match (s.lives.get target).joiners.get o with
  | .out outcome => outcome
  | _ => none

/-- What a worker can do in its command, if anything. -/
def work (s : State) (t : OsThread) : Option State :=
  (s.jobs.get t).bind fun p =>
    match p.job with
    | .script next =>
      match s.monitors.point t with
      | .rest (some r) => some (s.proceed t p (next r))
      | _ => (s.monitors.step (.advance t)).map s.withMonitors
    | .lock l guard => s.takeLock t l guard
    | .join target =>
      match s.joinOutcome? t target with
      | some r => some (s.endJob t (.joined r))
      | none => s.joinStep t target

/-- The limit below which a wait ends by itself within a step, in milliseconds. -/
def shortLimit : Nat := 1000

/-- The wait of a worker ends by its time limit, if that is short. -/
def expire (s : State) (t : OsThread) : Option State :=
  (s.jobs.get t).bind fun p =>
    if p.limit < shortLimit then
      match s.monitors.point t with
      | .sleeping w since =>
        ((s.monitors.step (.pass (since + w.ms - s.monitors.now))).bind
          fun m => m.step (.giveUp t)).map s.withMonitors
      | _ => none
    else none

/-- One thing that can happen. -/
def next? (s : State) : Option State :=
  if s.isOver then none
  else (List.range s.count).findSome? s.work <|> (List.range s.count).findSome? s.expire

/-- Everything happens that can happen, but no more than `fuel` things. -/
def settle : Nat → State → State
  | 0, s => s
  | fuel + 1, s =>
    match s.next? with
    | some s' => settle fuel s'
    | none => s

/-- No step needs more: each worker is in at most one command, which has a fixed number of
operations, three for each thread that it notifies, and one for each time that a monitor has been
entered before. -/
def fuel (s : State) : Nat := (s.count + 1) * (32 + 4 * s.count + 2 * s.steps)

/-- The worker has ended. -/
def hasLeft (s : State) (t : OsThread) : Bool :=
  match (s.lives.get t).runner with
  | .ended _ => true
  | _ => false

/-- The worker, or an identity, is in a command that has not ended. -/
def isBusy (s : State) (t : OsThread) (who : Identity) : Bool :=
  (s.jobs.get t).isSome ||
    (List.range s.count).any fun k => (s.jobs.get k).any fun p => p.who = who

/-- Puts the inspection back, with the violation that may have happened there. -/
def withInspection (s : State) (i : Inspect.State) : State :=
  match i.violation with
  | some (o, v) => { s with inspection := i }.violate o v
  | none => { s with inspection := i }

/-- The registers can be those of a running thread. -/
def isSane (r : Registers) : Bool := r.ip ≠ 0 && r.stack ≠ 0

def visit (s : State) (t : OsThread) (who target : Identity) : State :=
  let (outcome, seen, i) := s.inspection.visit t who target s.inspector.timeout.toNanos
  (s.withInspection i).endJob t (.visited outcome seen.length (seen.all isSane))

/-- The registers that a worker sets on a target to try that out. -/
def trial : Registers := ⟨1, 2, 3⟩

/-- The handle of a stopped thread as a record. -/
def handleDebug (r : Registers) : String :=
  Text.record "PausedThread" [("registers", r.debug), ("resumed", "false")]

/-- A worker stops a target, sets other registers and then the old ones, and lets it go. -/
def suspend (s : State) (t : OsThread) (who target : Identity) : State :=
  let i := s.inspection.suspend t who target s.inspector.timeout.toNanos
  match i.held? t with
  | none =>
    let r : Result := match i.outcome t with
      | .error e => .failed e
      | .ok () => .ok
    (s.withInspection i).endJob t r
  | some old =>
    let j := i.after t target (.overwrite t trial)
    let k := j.after t target (.overwrite t old)
    let r : Result :=
      .suspended (i.held? t = some old) (j.held? t = some trial) (k.held? t = some old)
        (((j.held? t).map handleDebug).getD "")
    (s.withInspection (k.after t target (.resume t))).endJob t r

/-- A worker's task ends, and its OS thread with it. -/
def stop (s : State) (t : OsThread) (panicked : Bool) : State :=
  let l := (s.lives.get t).complete panicked
  let i := (s.inspection.step (.finish t)).bind fun i => i.step (.leave t)
  { s with
    lives := s.lives.set t l
    inspection := i.getD s.inspection }.endJob t (.reply .done)

def give (s : State) (t : OsThread) (who : Identity) (c : Command) : State :=
  let begin := fun (job : Job) => { s with
    jobs := s.jobs.set t (some ⟨who, job, c.object?, c.limit⟩) }
  let script := fun (x : Script) =>
    s.proceed t ⟨who, .script fun _ => x, c.object?, c.limit⟩ x
  match c with
  | .call m => script (.once m)
  | .waitLeave m ms => script (.waitLeave m ms)
  | .sync m => script (.sync m)
  | .lock l => begin (.lock l false)
  | .guard l => begin (.lock l true)
  | .tryLock l =>
    match (s.locks.get l).take t with
    | .taken lock => { s with locks := s.locks.set l lock }.endJob t (.reply (.bool true))
    | .busy | .deadlock => s.endJob t (.reply (.bool false))
  | .unlock l =>
    match (s.locks.get l).release? t with
    | some lock => { s with locks := s.locks.set l lock }.endJob t (.reply .done)
    | none => s.violate t .lockNotHeld
  | .stop panicked => s.stop t panicked
  | .join target =>
    match (s.lives.get target).step (.join t) with
    | some l =>
      { s with
        lives := s.lives.set target l
        jobs := s.jobs.set t (some ⟨who, .join target, none, 0⟩) }
    | none => s
  | .visit target => s.visit t who target
  | .suspend target => s.suspend t who target
  | .mask on =>
    let i := (s.inspection.step (.mask t on)).getD s.inspection
    -- A signal that was pending is let in now, and its handler runs to its end.
    { s with inspection := i.after t t (.deliver t) }.endJob t (.reply .done)
  | .name => s.endJob t (.name ((s.workers[t]?).bind (·.name)))
  | .isCurrent => s.endJob t (.reply (.bool ((s.lives.get who).native = some t)))

/-- An operation of the controller on a monitor or park cell, which never blocks. -/
def controllerCall (s : State) (c : Monitor.Call) : Result × State :=
  let o := s.count
  let m := s.monitors.carryOut o o c
  let r : Result := match m.reply? o with
    | some (.flags f) => .text f.debug
    | some r => .reply r
    | none => .blocked
  (r, s.withMonitors m)

def threadDebug (s : State) (i : Identity) : String :=
  Text.record "Thread"
    [("id", Text.tagged "ThreadId" (toString (State.idOf i))),
      ("attached", if (s.lives.get i).attached then "true" else "false"),
      ("state", (s.lives.get i).stage.name)]

/-- The monitor as a record; only its owner is shown. -/
def monitorDebug (s : State) (m : MonitorId) : String :=
  Text.openRecord "Monitor"
    [("owner", Text.optional ((s.monitors.monitors.get m).owner.map fun i =>
      Text.tagged "ThreadId" (toString (State.idOf i))))]

/-- A worker is in a command on the object. -/
def isInUse (s : State) (x : Object) : Bool :=
  (List.range s.count).any fun k => (s.jobs.get k).any fun p => p.object = some x

/-- The controller disposes of a monitor or lock that no worker is blocked in. -/
def dispose (s : State) (x : Object) : Result × State :=
  if s.isInUse x then (.busy, s)
  else
    let s' := { s with disposed := x :: s.disposed }
    match x with
    | .monitor m =>
      match s'.controllerCall (.dispose m) with
      | (_, s'') => (.ok, s'')
    | .lock l =>
      if (s.locks.get l).isHeld then (.ok, s'.violate s.count (.disposedInUse "lock"))
      else (.ok, s')

/-- The controller joins a thread, unless that would take for ever. -/
def controllerJoin (s : State) (target : Identity) : Result × State :=
  let o := s.count
  if !(s.lives.get target).attached && !s.hasLeft target then (.busy, s)
  else
    let go := fun (s : State) (_ : Nat) => (s.joinStep o target).getD s
    let s := match (s.lives.get target).step (.join o) with
      | some l => { s with lives := s.lives.set target l }
      | none => s
    let s := (List.range 4).foldl go s
    (match s.joinOutcome? o target with
      | some r => .joined r
      | none => .blocked, s)

def act (s : State) : Deed → Result × State
  | .interrupt t => s.controllerCall (.interrupt t)
  | .query t q => s.controllerCall (.query t q)
  | .stage t => (.text (s.lives.get t).stage.name, s)
  | .isAttached t => (.reply (.bool (s.lives.get t).attached), s)
  | .isCurrent t => (.reply (.bool ((s.lives.get t).native = some s.count)), s)
  | .hasNative t => (.reply (.bool (s.lives.get t).native.isSome), s)
  | .debug t => (.text (s.threadDebug t), s)
  | .park t => (.text (s.monitors.parks.get t).debug, s)
  | .join t => s.controllerJoin t
  | .owner m => (.owner (s.monitors.monitors.get m).owner, s)
  | .debugMonitor m => (.text (s.monitorDebug m), s)
  | .drop x => s.dispose x

def isDisposed (s : State) (x : Option Object) : Bool := x.any s.disposed.contains

end State

/-- What can be seen after a step. -/
structure Report where
  result : Result
  /-- The results of earlier commands that ended in this step, by worker. -/
  woke : List (OsThread × Result)
  /-- The workers that are still in a command. -/
  blocked : List OsThread

namespace State

/-- The first of a list of results that belongs to a worker. -/
def resultOf? (ended : List (OsThread × Result)) (t : OsThread) : Option Result := ended.lookup t

/-- The report of a step after which everything is quiet. The result of the worker that got the
command, if any, stands apart from the results of the others. -/
def report (s : State) (commanded : Option OsThread) (r : Option Result) : Report where
  result := (r <|> commanded.bind (resultOf? s.ended)).getD .blocked
  woke := (List.range s.count).filterMap fun k =>
    if commanded = some k then none else (resultOf? s.ended k).map fun r => (k, r)
  blocked := (List.range s.count).filter fun k => (s.jobs.get k).isSome

def step (s : State) (x : Step) : Report × State :=
  let s := { s with ended := [], steps := s.steps + 1 }
  match x with
  | .worker t who c =>
    if s.hasLeft t then (s.report none (some .gone), s)
    else if s.isBusy t who then (s.report none (some .busy), s)
    else if s.isDisposed c.object? then (s.report none (some .gone), s)
    else
      let s := settle s.fuel (s.give t who c)
      (s.report (some t) none, s)
  | .controller d =>
    if s.isDisposed d.object? then (s.report none (some .gone), s)
    else
      let (r, s) := s.act d
      let s := settle s.fuel s
      (s.report none (some r), s)

/-- What can be seen of a monitor: nothing once it is disposed of, else its owner, depth and number
of waiting threads. -/
def viewMonitor (s : State) (m : MonitorId) : Option (Option Identity × Nat × Nat) :=
  if s.disposed.contains (.monitor m) then none
  else
    let x := s.monitors.monitors.get m
    some (x.owner, x.depth, x.queue.length)

/-- What can be seen of a worker: its stage, flags, pending interruption and event. -/
def viewWorker (s : State) (t : OsThread) : Stage × Flags × Bool × Bool :=
  let p := s.monitors.parks.get t
  ((s.lives.get t).stage, p.flags, p.interrupted, p.signaled)

end State
end VmHost.Session
