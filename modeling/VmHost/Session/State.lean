import VmHost.Inspect.Solo
import VmHost.Monitor.Solo
import VmHost.Platform
import VmHost.Session.Command
import VmHost.Thread.Id
import VmHost.Thread.Life
import VmHost.Thread.Start

/-!
# The state of a session

Worker `k` is identity `k` on OS thread `k`; after the workers comes the controller, which is an
adopted thread on the main OS thread. A session begins by putting a configuration into force and
starting the workers one after the other; the first failure ends it.
-/
namespace VmHost.Session

/-- How a worker is to be started. -/
structure WorkerOptions where
  name : Option String
  /-- The size of its stack in bytes. -/
  stack : Option Nat
  deriving DecidableEq, Repr

/-- The size of a worker's stack, zero for the usual one. The configuration decides for a worker
without any options; to one with options of its own it does not apply. -/
def WorkerOptions.stackSize (w : WorkerOptions) (configured : Nat) : Nat :=
  match w.stack with
  | some size => size
  | none => if w.name.isSome then 0 else configured

inductive Job
  /-- It waits for the answer of an operation on a monitor. -/
  | script (next : Monitor.Reply → Script)
  | lock (l : Nat) (guard : Bool)
  | join (target : Identity)

/-- A command that has not ended. -/
structure Pending where
  who : Identity
  job : Job
  object : Option Object
  /-- The time limit of its wait, in milliseconds. -/
  limit : Nat

structure State where
  host : Host
  inspector : Inspect.Inspector
  /-- How each worker was started. -/
  workers : List WorkerOptions
  monitors : Monitor.State
  locks : Row Mutex
  /-- The monitors and locks that have been disposed of. -/
  disposed : List Object
  lives : Row Life
  inspection : Inspect.State
  jobs : Row (Option Pending)
  /-- The results of earlier commands that ended in the present step. -/
  ended : List (OsThread × Result)
  /-- The number of steps so far. -/
  steps : Nat
  violation : Option (OsThread × Violation)

namespace State

/-- The number of workers, and the place of the controller. -/
def count (s : State) : Nat := s.workers.length

def threadName (s : State) (o : OsThread) : String :=
  match s.workers[o]? with
  | some w => w.name.getD (Host.threadName (o + 1))
  | none => Host.mainThread

def logAs (s : State) (o : OsThread) (level : Log.Level) (message : String) : State :=
  { s with host := s.host.logAs (some (s.threadName o)) level message }

/-- The number of a thread in texts. -/
def idOf (i : Identity) : Nat := i + 1

end State

/-- The registers of a thread that runs somewhere. -/
def somewhere : Context := ⟨fun _ => 4096⟩

/-- A running thread that may be stopped. -/
def subject : Inspect.Subject := ⟨somewhere, true, true, false, false, false, .out⟩

/-- Starts the workers in order; gives the error of the first that cannot be started. -/
def startWorkers (h : Host) (stack : Nat) : Nat → List WorkerOptions → Except Error Unit × Host
  | _, [] => (.ok (), h)
  | k, w :: rest =>
    match h.startThread (k + 1) (w.stackSize stack) with
    | (.ok (), h) => startWorkers h stack (k + 1) rest
    | (.error e, h) => (.error e, h)

def start (h : Host) (c : Config) (workers : List WorkerOptions) : Except Error State × Host :=
  match Platform.create h c with
  | (.error e, h) => (.error e, h)
  | (.ok platform, h) =>
    match startWorkers h c.stackSize.toNat 0 workers with
    | (.error e, h) => (.error e, h)
    | (.ok (), h) =>
      let n := workers.length
      let h := h.attachThread (n + 1)
      (.ok {
        host := h
        inspector := platform.inspector
        workers := workers
        monitors := .start
        locks := .empty
        disposed := []
        lives := .ofList ((List.range n).map Life.started ++ [Life.adopted n])
        inspection := { Inspect.State.start with
          subjects := .ofList (List.replicate (n + 1) subject) }
        jobs := .empty
        ended := []
        steps := 0
        violation := none }, h)

end VmHost.Session
