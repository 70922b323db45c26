import VmHost.Row
import VmHost.Signal
import VmHost.Snapshot.Write
import VmHost.Sync.Mutex
import VmHost.Violation

/-!
# Fault interception under many threads

One handler at a time is registered for the two signals of memory faults. Its registration is
published in one shared word, so that a faulting thread finds it without a mutex, and a counter says
how many activations may be using it. Installing a handler publishes the registration first, and
then for each signal replaces the action and records the one that was there; removing it unpublishes
the registration, puts the recorded actions back, waits for the counter to become zero, and frees
the registration. Both are done under the system mutex.

An activation counts itself in, loads the published registration, and runs its handler. If that
resumes, the four registers of the view are written back. If it declines, a snapshot is written if
a directory was given, and the fault goes to the recorded action of its signal.

The operating system may refuse to change an action. One step is one access to the shared word, the
counter, an action, a recorded action, the mutex or the disk. A completed activation leaves an entry in
`outcomes`.
-/
namespace VmHost.Fault

/-- The two signals of memory faults. -/
inductive Kind
  | segv
  | bus
  deriving DecidableEq, Repr

def Kind.signal : Kind → Signal
  | .segv => Signal.segv
  | .bus => Signal.bus

/-- The kind that is dealt with after this one. -/
def Kind.next? : Kind → Option Kind
  | .segv => some .bus
  | .bus => none

/-- What the operating system does with a signal. -/
inductive Disposition
  /-- Ends the process. -/
  | default
  /-- Nothing; but a fault cannot be ignored. -/
  | ignore
  /-- Calls somebody's handler with the number of the signal. -/
  | plain
  /-- Calls somebody's handler with the number, the details and the saved context. -/
  | detailed
  /-- Calls the handler that looks for a registration. -/
  | ours
  deriving DecidableEq, Repr

/-- A fault handler: new values for some registers, and a decision. -/
abbrev Handler := View → Changes × Action

/-- A registered handler, with the actions it replaced as far as they have been recorded.
mirrors `Registration` -/
structure Registration where
  owner : UInt64
  handler : Handler
  target : Option Snapshot.Target
  previous : Kind → Option Disposition

/-- What somebody asks for. -/
inductive Job
  /-- Registers a handler; declined faults leave snapshots in the directory. -/
  | install (owner : UInt64) (handler : Handler) (dir : Option Bytes) (maxFrames : UInt64)
  /-- Removes the owner's handler. -/
  | uninstall (owner : UInt64)
  /-- Removes the owner's handler, if it has one. -/
  | dispose (owner : UInt64)
  /-- Asks whether the owner's handler is registered. -/
  | owns (owner : UInt64)

/-- What a job comes to. -/
inductive Answer
  | done
  | failed (e : Error)
  | bool (value : Bool)
  deriving DecidableEq, Repr

/-- What an OS thread with a job is about to do. A registration is named by its place. -/
inductive Managing
  /-- Nothing; the answer of its last job. -/
  | out (answer : Option Answer)
  /-- Take the system mutex. -/
  | locking (j : Job)
  /-- Load the published registration. -/
  | checking (j : Job)
  /-- Publish a registration. -/
  | publishing (r : Registration)
  /-- Replace the action of a signal. -/
  | replacing (r : Nat) (k : Kind)
  /-- Record the action that was replaced. -/
  | recording (r : Nat) (k : Kind) (was : Disposition)
  /-- Unpublish a registration. -/
  | withdrawing (r : Nat) (answer : Answer)
  /-- Put the recorded action of a signal back. -/
  | restoring (r : Nat) (k : Kind) (answer : Answer)
  /-- Wait until no activation is counted. -/
  | draining (r : Nat) (answer : Answer)
  /-- Free a registration. -/
  | freeing (r : Nat) (answer : Answer)
  /-- Release the system mutex. -/
  | unlocking (answer : Answer)

instance : Inhabited Managing := ⟨.out none⟩

/-- What an activation is about to do. -/
inductive Doing
  /-- Count itself in. -/
  | entering
  /-- Load the published registration. -/
  | loading
  /-- Count itself out, having found no registration. -/
  | dismissing
  /-- Run the handler. -/
  | handling (r : Nat)
  /-- Write the registers back and count itself out. -/
  | resuming (r : Nat) (v : View)
  /-- Write a snapshot. -/
  | dumping (r : Nat) (v : View)
  /-- Read the recorded action of the signal. -/
  | consulting (r : Nat)
  /-- Count itself out. -/
  | leaving (r : Nat) (was : Option Disposition)
  /-- Hand the fault on. -/
  | passing (was : Option Disposition)
  deriving DecidableEq, Repr

/-- A fault that is being handled on some thread. -/
structure Activation where
  kind : Kind
  address : UInt64
  /-- The registers that the signal saved. -/
  saved : Context
  doing : Doing

inductive Ending
  /-- There was no registration: the fault is taken again. -/
  | dismissed
  /-- The handler resumed. -/
  | resumed
  /-- The handler declined, and the fault went on to the recorded action, or to the default one if
  none was recorded. -/
  | passed (was : Option Disposition)
  /-- The fault went to somebody else's handler in the first place. -/
  | direct (action : Disposition)
  deriving DecidableEq, Repr

/-- A fault that has been handled: where, what, and the registers before and after. -/
structure Outcome where
  thread : OsThread
  kind : Kind
  address : UInt64
  before : Context
  after : Context
  ending : Ending

/-- A call of a registered handler: where, what it saw, and what it answered. -/
structure HandlerCall where
  thread : OsThread
  view : View
  changes : Changes
  action : Action
  deriving DecidableEq, Repr

/-- Everything that fault handling shares. -/
structure State where
  lock : Mutex
  /-- The published registration. -/
  active : Option Nat
  /-- How many activations are counted in. -/
  inFlight : Nat
  /-- Every registration that was ever published. -/
  registrations : List Registration
  /-- The registrations that were freed, the last one first. -/
  freed : List Nat
  /-- The actions of the two signals. -/
  actions : Kind → Disposition
  managers : Row Managing
  /-- The activations on each OS thread, the innermost first. -/
  activations : Row (List Activation)
  disk : Disk
  time : Snapshot.Time
  memory : Memory
  /-- The calls of registered handlers, the last one first. -/
  handled : List HandlerCall
  /-- The activations that have ended, the last one first. -/
  outcomes : List Outcome
  /-- The signal by which the process ended. -/
  ended : Option Signal
  violation : Option (OsThread × Violation)

inductive Label
  /-- An OS thread begins a job. -/
  | ask (o : OsThread) (j : Job)
  /-- An OS thread does what it is about to do for its job. -/
  | manage (o : OsThread)
  /-- The operating system refuses to change an action for the job of an OS thread, with this error
  number. -/
  | refuse (o : OsThread) (errno : Int)
  /-- An OS thread takes a fault; these are its registers. -/
  | fault (o : OsThread) (k : Kind) (address : UInt64) (saved : Context)
  /-- The innermost activation of an OS thread does what it is about to do. -/
  | handle (o : OsThread)

namespace State

/-- Nothing is registered; the signals have these actions. -/
def start (actions : Kind → Disposition) (disk : Disk) (time : Snapshot.Time) (memory : Memory) :
    State where
  lock := .free
  active := none
  inFlight := 0
  registrations := []
  freed := []
  actions := actions
  managers := .empty
  activations := .empty
  disk := disk
  time := time
  memory := memory
  handled := []
  outcomes := []
  ended := none
  violation := none

/-- A handler is registered.
mirrors `FaultInterceptor.is_installed` -/
def isInstalled (s : State) : Bool := s.active.isSome

def moveTo (s : State) (o : OsThread) (m : Managing) : State :=
  { s with managers := s.managers.set o m }

def setAction (s : State) (k : Kind) (d : Disposition) : State :=
  { s with actions := fun q => if q = k then d else s.actions q }

/-- Records the action that a registration replaced. -/
def record (s : State) (r : Nat) (k : Kind) (d : Disposition) : State :=
  { s with registrations := s.registrations.modify r fun x =>
      { x with previous := fun q => if q = k then some d else x.previous q } }

/-- The action that a registration has recorded.
mirrors `Registration.previous_for` -/
def recorded? (s : State) (r : Nat) (k : Kind) : Option Disposition :=
  (s.registrations[r]?).bind fun x => x.previous k

/-- The published registration, if it belongs to an owner.
mirrors `FaultInterceptor.owned_registration` -/
def ownedBy? (s : State) (owner : UInt64) : Option Nat :=
  s.active.filter fun r => ((s.registrations[r]?).map (·.owner)) = some owner

/-- Checks the directory for snapshots, if there is one. -/
def checkTarget (dir : Option Bytes) (maxFrames : UInt64) :
    Except Error (Option Snapshot.Target) :=
  match dir with
  | none => .ok none
  | some d => (Snapshot.Target.create d maxFrames).map some

/-- What an OS thread does once it has looked at the published registration. -/
def decide (s : State) : Job → Managing
  | .install owner handler dir maxFrames =>
    if s.isInstalled then .unlocking (.failed .alreadyInstalled)
    else
      match checkTarget dir maxFrames with
      | .ok target => .publishing ⟨owner, handler, target, fun _ => none⟩
      | .error e => .unlocking (.failed e)
  | .uninstall owner =>
    match s.ownedBy? owner with
    | some r => .withdrawing r .done
    | none => .unlocking (.failed .notInstalled)
  | .dispose owner =>
    match s.ownedBy? owner with
    | some r => .withdrawing r (.bool true)
    | none => .unlocking (.bool false)
  | .owns owner => .unlocking (.bool (s.ownedBy? owner).isSome)

/-- What comes after the action of a signal has been put back, or could not be. -/
def restored (r : Nat) (k : Kind) (answer : Answer) : Managing :=
  match k.next? with
  | some k' => .restoring r k' answer
  | none => .draining r answer

/-- An OS thread does what it is about to do for its job.
mirrors `FaultInterceptor.install`, `uninstall`, `drop` and `owns_registration`, with `retire` -/
def manage (s : State) (o : OsThread) : Option State :=
  match s.managers.get o with
  | .out _ => none
  | .locking j =>
    match s.lock.take o with
    | .taken lock => some ({ s with lock := lock }.moveTo o (.checking j))
    | .busy => none
    | .deadlock =>
      some { s with violation := some (o, .unexpected "pthread_mutex_lock" Mutex.deadlockCode) }
  | .checking j => some (s.moveTo o (s.decide j))
  | .publishing r =>
    let place := s.registrations.length
    some ({ s with
      registrations := s.registrations ++ [r]
      active := some place }.moveTo o (.replacing place .segv))
  | .replacing r k => some ((s.setAction k .ours).moveTo o (.recording r k (s.actions k)))
  | .recording r k was =>
    some ((s.record r k was).moveTo o
      (match k.next? with | some k' => .replacing r k' | none => .unlocking .done))
  | .withdrawing r answer =>
    some ({ s with active := none }.moveTo o (.restoring r .segv answer))
  | .restoring r k answer =>
    let s := match s.recorded? r k with
      | some was => s.setAction k was
      | none => s
    some (s.moveTo o (restored r k answer))
  | .draining r answer => if s.inFlight = 0 then some (s.moveTo o (.freeing r answer)) else none
  | .freeing r answer => some ({ s with freed := r :: s.freed }.moveTo o (.unlocking answer))
  | .unlocking answer =>
    match s.lock.release? o with
    | some lock => some ({ s with lock := lock }.moveTo o (.out (some answer)))
    | none => some { s with violation := some (o, .lockNotHeld) }

/-- An action is not changed. A registration that cannot be completed is removed again; an action
that cannot be put back stays. -/
def refuse (s : State) (o : OsThread) (errno : Int) : Option State :=
  match s.managers.get o with
  | .replacing r _ =>
    some (s.moveTo o (.withdrawing r (.failed (.exhausted ⟨.signalHandler, errno⟩))))
  | .restoring r k answer =>
    if (s.recorded? r k).isSome then some (s.moveTo o (restored r k answer)) else none
  | _ => none

/-- The innermost activation of an OS thread goes on. -/
def goOn (s : State) (o : OsThread) (a : Activation) (d : Doing) : State :=
  { s with activations := s.activations.modify o fun l => { a with doing := d } :: l.drop 1 }

/-- The innermost activation of an OS thread ends. -/
def conclude (s : State) (o : OsThread) (a : Activation) (after : Context) (e : Ending) : State :=
  { s with
    activations := s.activations.modify o (·.drop 1)
    outcomes := ⟨o, a.kind, a.address, a.saved, after, e⟩ :: s.outcomes }

/-- The view that an activation offers to the handler. -/
def viewOf (a : Activation) : View :=
  View.ofContext a.saved a.kind.signal.number a.address

/-- Runs the handler of a registration. -/
def runHandler (s : State) (o : OsThread) (a : Activation) (r : Nat) (x : Registration) : State :=
  let v := viewOf a
  let (changes, action) := x.handler v
  let w := v.change changes
  let s := { s with handled := ⟨o, v, changes, action⟩ :: s.handled }
  match action with
  | .resume => s.goOn o a (.resuming r w)
  | .decline => s.goOn o a (if x.target.isSome then .dumping r w else .consulting r)

/-- Writes the snapshot of a declined fault. A walk that breaks off ends the process. -/
def dump (s : State) (o : OsThread) (a : Activation) (r : Nat) (v : View) (t : Snapshot.Target) :
    State :=
  match Snapshot.write t s.disk s.time v o s.memory with
  | (.broken, disk) => { s with disk := disk, ended := some .abort }
  | (_, disk) => { s with disk := disk }.goOn o a (.consulting r)

/-- Hands a fault on. The default action is put in force, and the fault is taken again; a fault that
was to be ignored ends the process.
mirrors `chain` -/
def passOn (s : State) (o : OsThread) (a : Activation) (was : Option Disposition) : State :=
  match was.getD .default with
  | .default => (s.setAction a.kind .default).conclude o a a.saved (.passed was)
  | .ignore => { s with ended := some .abort }
  | .plain | .detailed => s.conclude o a a.saved (.passed was)
  | .ours => s.goOn o a .entering

/-- The innermost activation of an OS thread does what it is about to do.
mirrors `on_fault` -/
def handle (s : State) (o : OsThread) : Option State :=
  match s.activations.get o with
  | [] => none
  | a :: _ =>
    match a.doing with
    | .entering => some ({ s with inFlight := s.inFlight + 1 }.goOn o a .loading)
    | .loading =>
      some (s.goOn o a (match s.active with | some r => .handling r | none => .dismissing))
    | .dismissing =>
      some ({ s with inFlight := s.inFlight - 1 }.conclude o a a.saved .dismissed)
    | .handling r => (s.registrations[r]?).map (s.runHandler o a r)
    | .resuming _ v =>
      some ({ s with inFlight := s.inFlight - 1 }.conclude o a (v.restore a.saved) .resumed)
    | .dumping r v =>
      ((s.registrations[r]?).bind (·.target)).map (s.dump o a r v)
    | .consulting r => some (s.goOn o a (.leaving r (s.recorded? r a.kind)))
    | .leaving _ was => some ({ s with inFlight := s.inFlight - 1 }.goOn o a (.passing was))
    | .passing was => some (s.passOn o a was)

/-- An OS thread takes a fault, perhaps in the middle of handling another one. A signal that it is
handling already is kept out, and so ends the process. -/
def take (s : State) (o : OsThread) (k : Kind) (address : UInt64) (saved : Context) : State :=
  let a : Activation := ⟨k, address, saved, .entering⟩
  if (s.activations.get o).any fun b => b.kind = k then { s with ended := some k.signal }
  else
    match s.actions k with
    | .ours => { s with activations := s.activations.modify o (a :: ·) }
    | .plain => { s with outcomes := ⟨o, k, address, saved, saved, .direct .plain⟩ :: s.outcomes }
    | .detailed =>
      { s with outcomes := ⟨o, k, address, saved, saved, .direct .detailed⟩ :: s.outcomes }
    | .default | .ignore => { s with ended := some k.signal }

/-- What happens at a label, if it can happen. -/
def step (s : State) (l : Label) : Option State :=
  if s.ended.isSome ∨ s.violation.isSome then none
  else
    match l with
    | .ask o j =>
      match s.managers.get o with
      | .out _ => some (s.moveTo o (.locking j))
      | _ => none
    | .manage o => s.manage o
    | .refuse o errno => s.refuse o errno
    | .fault o k address saved => some (s.take o k address saved)
    | .handle o => s.handle o

inductive Reachable (s₀ : State) : State → Prop
  | refl : Reachable s₀ s₀
  | step {s t : State} (l : Label) : Reachable s₀ s → s.step l = some t → Reachable s₀ t

/-- An OS thread goes on with its job and its activations, for at most `fuel` steps. -/
def settle : Nat → State → OsThread → State
  | 0, s, _ => s
  | fuel + 1, s, o =>
    match s.step (.handle o) <|> s.step (.manage o) with
    | some s' => settle fuel s' o
    | none => s

/-- No job and no activation takes more steps than this when nobody else does anything. -/
def settleFuel : Nat := 16

/-- A label of an OS thread happens, and the thread goes on until it has nothing to do. -/
def after (s : State) (o : OsThread) (l : Label) : State :=
  settle settleFuel ((s.step l).getD s) o

/-- The answer to the last job of an OS thread. -/
def answer? (s : State) (o : OsThread) : Option Answer :=
  match s.managers.get o with
  | .out answer => answer
  | _ => none

/-- An OS thread does a job from its beginning to its end: its answer, and the state afterwards. -/
def call (s : State) (o : OsThread) (j : Job) : Option Answer × State :=
  let t := s.after o (.ask o j)
  (t.answer? o, t)

end State
end VmHost.Fault
