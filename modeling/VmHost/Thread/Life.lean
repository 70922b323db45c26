import VmHost.Error
import VmHost.Row
import VmHost.Sync.Mutex
import VmHost.Thread.Stage

/-!
# The life of a thread

A thread of the runtime is either an OS thread that was adopted, or it is started: its starter asks
the operating system for an OS thread, which runs the thread's task once. Three parties write the
published stage, none of them under a lock: the starter, the OS thread itself when its task has
returned or panicked, and the one join that got the join handle. The handle is stored after the OS
thread has come to exist, and a join that finds no handle succeeds at once.

One step is one access to what the parties share. `step` says what a step does, or that it cannot
be taken.
-/
namespace VmHost

/-- What the starter of a thread is about to do. -/
inductive Starter
  /-- Nothing yet: nobody has started the thread. -/
  | absent
  /-- Publish that the thread is running. -/
  | announcing
  /-- Ask for an OS thread. -/
  | spawning
  /-- Publish which OS thread it is. -/
  | publishing
  /-- Store the join handle. -/
  | storing
  /-- Publish that the thread is finished, as no OS thread could be had. -/
  | withdrawing (errno : Int)
  /-- Nothing any more: the start has succeeded. -/
  | returned
  /-- Nothing any more: the start has failed. -/
  | failed (errno : Int)
  deriving DecidableEq, Repr, Inhabited

/-- What the OS thread of a thread is about to do. -/
inductive Runner
  /-- There is no OS thread. -/
  | unborn
  /-- Publish which OS thread it is. -/
  | born
  /-- Its task. -/
  | running
  /-- Publish that the task has ended. -/
  | ending (panicked : Bool)
  /-- Nothing any more: the OS thread has ended. -/
  | ended (panicked : Bool)
  deriving DecidableEq, Repr, Inhabited

/-- What an OS thread that joins the thread is about to do. -/
inductive Joiner
  /-- Nothing; the outcome of its last join. -/
  | out (outcome : Option (Except Error Unit))
  /-- Look whether it is the thread itself. -/
  | comparing
  /-- Take the join handle. -/
  | taking
  /-- With the handle in hand, wait for the OS thread to end. -/
  | awaiting
  /-- Publish that the thread has been joined. -/
  | marking (panicked : Bool)
  deriving Repr

instance : Inhabited Joiner := ⟨.out none⟩

/-- The life of one thread. -/
structure Life where
  /-- The OS thread is one that was adopted. -/
  attached : Bool
  /-- The OS thread that the thread runs on. -/
  os : OsThread
  /-- The published stage. -/
  stage : Stage
  /-- The OS thread, once it has been published. -/
  native : Option OsThread
  /-- The join handle is stored and has not been taken. -/
  handle : Bool
  starter : Starter
  runner : Runner
  joiners : Row Joiner
  deriving Repr

namespace Life

/-- A thread that is to run on this OS thread and has not been started. -/
def created (os : OsThread) : Life where
  attached := false
  os := os
  stage := .created
  native := none
  handle := false
  starter := .absent
  runner := .unborn
  joiners := .empty

/-- An OS thread that has been adopted. -/
def adopted (os : OsThread) : Life :=
  { created os with
    attached := true, stage := .running, native := some os, starter := .returned,
    runner := .running }

instance : Inhabited Life := ⟨created 0⟩

inductive Label
  /-- Somebody starts the thread. -/
  | start
  /-- The starter does what it is about to do. -/
  | starter
  /-- The operating system refuses an OS thread, with this error number. -/
  | refuse (errno : Int)
  /-- The OS thread does what it is about to do, its task apart. -/
  | runner
  /-- The task returns or panics. -/
  | stop (panicked : Bool)
  /-- An OS thread begins to join the thread. -/
  | join (o : OsThread)
  /-- A joining OS thread does what it is about to do. -/
  | joiner (o : OsThread)
  deriving DecidableEq, Repr

/-- The thread can be named by others: its task has begun, or its start has returned. -/
def isKnown (l : Life) : Bool :=
  l.starter = .returned || l.runner = .running ||
    match l.runner with
    | .ending _ | .ended _ => true
    | _ => false

/-- Moves a joining OS thread. -/
def setJoiner (l : Life) (o : OsThread) (j : Joiner) : Life :=
  { l with joiners := l.joiners.set o j }

/-- The refusal to join an adopted thread. -/
def attachedJoin : Error := .invalidArgument "attached thread cannot be joined"

/-- The refusal to join oneself. -/
def selfJoin : Error := .invalidArgument "thread cannot join itself"

/-- The starter's next step.
mirrors `Thread.start`, on the OS thread that calls it -/
def starterStep (l : Life) : Option Life :=
  match l.starter with
  | .announcing => some { l with stage := .running, starter := .spawning }
  | .spawning => some { l with runner := .born, starter := .publishing }
  | .publishing => some { l with native := some l.os, starter := .storing }
  | .storing => some { l with handle := true, starter := .returned }
  | .withdrawing errno => some { l with stage := .finished, starter := .failed errno }
  | .absent | .returned | .failed _ => none

/-- The OS thread's next step.
mirrors `Thread.start`, on the new OS thread, with `FinishOnExit` -/
def runnerStep (l : Life) : Option Life :=
  match l.runner with
  | .born => some { l with native := some l.os, runner := .running }
  | .ending panicked => some { l with stage := .finished, runner := .ended panicked }
  | .unborn | .running | .ended _ => none

/-- A joining OS thread's next step.
mirrors `Thread.join` -/
def joinerStep (l : Life) (o : OsThread) : Option Life :=
  match l.joiners.get o with
  | .out _ => none
  | .comparing =>
    some (l.setJoiner o (if l.native = some o then .out (some (.error selfJoin)) else .taking))
  | .taking =>
    some (if l.handle then { l with handle := false }.setJoiner o .awaiting
      else l.setJoiner o (.out (some (.ok ()))))
  | .awaiting =>
    match l.runner with
    | .ended panicked => some (l.setJoiner o (.marking panicked))
    | _ => none
  | .marking _ => some ({ l with stage := .joined }.setJoiner o (.out (some (.ok ()))))

/-- What happens at a label, if it can happen. -/
def step (l : Life) : Label → Option Life
  | .start =>
    if l.starter = .absent then some { l with starter := .announcing } else none
  | .starter => l.starterStep
  | .refuse errno =>
    if l.starter = .spawning then some { l with starter := .withdrawing errno } else none
  | .runner => l.runnerStep
  | .stop panicked =>
    if l.runner = .running ∧ l.attached = false then some { l with runner := .ending panicked }
    else none
  | .join o =>
    match l.joiners.get o with
    | .out _ =>
      if l.isKnown then
        some (l.setJoiner o (if l.attached then .out (some (.error attachedJoin)) else .comparing))
      else none
    | _ => none
  | .joiner o => l.joinerStep o

inductive Reachable (l₀ : Life) : Life → Prop
  | refl : Reachable l₀ l₀
  | step {l k : Life} (a : Label) : Reachable l₀ l → l.step a = some k → Reachable l₀ k

/-- Takes labels one after the other, leaving out those that cannot happen. -/
def run (l : Life) (labels : List Label) : Life :=
  labels.foldl (fun l a => (l.step a).getD l) l

/-- The life of a thread after a start that no other party disturbed. -/
def started (os : OsThread) : Life :=
  (created os).run [.start, .starter, .starter, .starter, .starter, .runner]

/-- The life of a thread after a start that the operating system refused. -/
def refused (os : OsThread) (errno : Int) : Life :=
  (created os).run [.start, .starter, .refuse errno, .starter]

/-- The life goes on to the end of its task and of its OS thread. -/
def complete (l : Life) (panicked : Bool) : Life := l.run [.stop panicked, .runner]

/-- An OS thread joins the thread, as far as that goes without the help of others. -/
def joinBy (l : Life) (o : OsThread) : Life :=
  l.run [.join o, .joiner o, .joiner o, .joiner o, .joiner o]

end Life
end VmHost
