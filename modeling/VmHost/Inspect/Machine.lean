import VmHost.Context
import VmHost.Monitor.Basic
import VmHost.Violation

/-!
# Stopping threads under many inspectors

One thread stops another through a slot that the whole process shares. The inspector takes the
system mutex, arms the slot with its target, and sends the inspection signal. The handler of the
signal, on the target, finds the request, copies three registers from the saved context into the
slot, turns the phase to paused and waits. The inspector reads the registers, may overwrite them,
and turns the phase to resume; the handler then writes overwritten registers into the saved context,
turns the phase to idle and returns. Inspectors give up when the time is over or the target has
finished. Signals may also come late, pending from a request that was given up, or from strangers.

One step is one access to the slot, the clock, the mutex or a published fact about the target.
Thread `t` of the runtime runs on OS thread `t`.
-/
namespace VmHost.Inspect

/-- The phase of the slot. -/
inductive Phase
  | idle
  | requested
  | paused
  | resume
  deriving DecidableEq, Repr, Inhabited

/-- One of the three register words of the slot. -/
inductive Slice
  | ip
  | frame
  | stack
  deriving DecidableEq, Repr

/-- The word that is copied after this one. -/
def Slice.next? : Slice → Option Slice
  | .ip => some .frame
  | .frame => some .stack
  | .stack => none

def Slice.of (k : Slice) (r : Registers) : UInt64 :=
  match k with
  | .ip => r.ip
  | .frame => r.frame
  | .stack => r.stack

def Slice.put (k : Slice) (r : Registers) (w : UInt64) : Registers :=
  match k with
  | .ip => { r with ip := w }
  | .frame => { r with frame := w }
  | .stack => { r with stack := w }

/-- The slot that inspectors and handlers share.
mirrors `InspectionSlot` -/
structure Slot where
  phase : Phase
  target : Option OsThread
  registers : Registers
  overwritten : Bool
  deriving DecidableEq, Repr

/-- What an inspector is asked to do. -/
structure Request where
  target : Identity
  /-- The longest time to wait for the target, in nanoseconds. -/
  timeout : Nat
  /-- Show the registers to a visitor and resume at once, instead of holding the target. -/
  visiting : Bool
  deriving DecidableEq, Repr

inductive Outcome
  /-- The target was stopped, and runs again. -/
  | resumed
  | failed (e : Error)
  /-- The deadline left the range of the clock. -/
  | overflowed
  deriving DecidableEq, Repr

/-- What an inspecting OS thread is about to do. -/
inductive Inspecting
  /-- Nothing; the outcome of its last inspection. -/
  | out (outcome : Option Outcome)
  /-- Take the system mutex. -/
  | locking (q : Request)
  /-- Look whether the target is running. -/
  | judging (q : Request)
  /-- Look which OS thread the target is. -/
  | resolving (q : Request)
  /-- Write the target into the slot. -/
  | aiming (q : Request)
  /-- Clear the mark of overwritten registers. -/
  | clearing (q : Request)
  /-- Arm the slot. -/
  | arming (q : Request)
  /-- Send the signal. -/
  | signalling (q : Request)
  /-- Disarm the slot, as the signal could not be sent. -/
  | disarming (e : Error)
  /-- Compute the deadline. -/
  | timing (q : Request)
  /-- Look at the phase. -/
  | polling (q : Request) (deadline : Nat)
  /-- Look at the clock and whether the target is running. -/
  | weighing (q : Request) (deadline : Nat)
  /-- Give up, unless the target answers just now. -/
  | withdrawing (q : Request) (deadline : Nat) (gone : Bool)
  /-- Disarm the slot, whose phase makes no sense. -/
  | confused
  /-- Read a word of the registers; the words before it have been read. -/
  | capturing (q : Request) (k : Slice) (got : Registers)
  /-- Hold the stopped target, with its registers. -/
  | holding (q : Request) (registers : Registers)
  /-- Write a word of new registers into the slot. -/
  | overwriting (q : Request) (k : Slice) (registers : Registers)
  /-- Mark the registers as overwritten. -/
  | marking (q : Request) (registers : Registers)
  /-- Let the target go. -/
  | resuming
  /-- Wait until the target has gone. -/
  | draining
  /-- Release the system mutex. -/
  | unlocking (outcome : Outcome)
  deriving DecidableEq, Repr

instance : Inhabited Inspecting := ⟨.out none⟩

/-- What the handler of the inspection signal is about to do. -/
inductive Handling
  /-- Nothing: the handler is not running. -/
  | out
  /-- Look whether there is a request. -/
  | entered
  /-- Look whether the request is for this thread. -/
  | matching
  /-- Copy a word of the saved registers into the slot. -/
  | storing (k : Slice)
  /-- Clear the mark of overwritten registers. -/
  | clearing
  /-- Turn the phase from requested to paused. -/
  | answering
  /-- Wait for the phase to leave paused. -/
  | parked
  /-- Look whether the registers were overwritten. -/
  | checking
  /-- Read a word of the slot; the words before it have been read. -/
  | reloading (k : Slice) (got : Registers)
  /-- Turn the phase to idle. -/
  | releasing
  deriving DecidableEq, Repr, Inhabited

/-- A thread that may be stopped. -/
structure Subject where
  /-- The registers that a signal would save, or has saved. -/
  context : Context
  /-- Its OS thread has been published. -/
  known : Bool
  /-- It is published as running. -/
  live : Bool
  /-- Its OS thread has ended. -/
  ended : Bool
  /-- It keeps the inspection signal out. -/
  masked : Bool
  /-- The inspection signal waits to be let in. -/
  pending : Bool
  handler : Handling

/-- A thread that does not exist. -/
instance : Inhabited Subject := ⟨⟨.zero, false, false, false, false, false, .out⟩⟩

/-- The state of the slot, the clock, all inspectors and all threads that may be stopped. -/
structure State where
  lock : Mutex
  slot : Slot
  /-- The clock, in nanoseconds. -/
  now : Nat
  inspectors : Row Inspecting
  subjects : Row Subject
  /-- The calls of visitors, the last one first: by whom, of whom, with what. -/
  visits : List (OsThread × Identity × Registers)
  violation : Option (OsThread × Violation)

inductive Label
  /-- An OS thread asks, in the name of a caller, to stop a target. -/
  | ask (o : OsThread) (caller : Identity) (q : Request)
  /-- An inspector does what it is about to do. -/
  | advance (o : OsThread)
  /-- The signal of an inspector cannot be sent, as the target's OS thread has ended. -/
  | refuse (o : OsThread) (e : Error)
  /-- The holder of a stopped thread replaces the registers with which that is to go on. -/
  | overwrite (o : OsThread) (r : Registers)
  /-- The holder of a stopped thread lets it go. -/
  | resume (o : OsThread)
  /-- The pending signal interrupts a thread. -/
  | deliver (t : Identity)
  /-- The handler of a thread does what it is about to do. -/
  | handle (t : Identity)
  /-- A stranger sends the inspection signal to a thread. -/
  | stray (t : Identity)
  /-- A thread runs its own code, which changes its registers. -/
  | run (t : Identity) (c : Context)
  /-- A thread keeps the inspection signal out, or lets it in again. -/
  | mask (t : Identity) (on : Bool)
  /-- The OS thread of a thread is published. -/
  | publish (t : Identity)
  /-- A thread publishes that it has finished. -/
  | finish (t : Identity)
  /-- The OS thread of a finished thread ends. -/
  | leave (t : Identity)
  /-- Time passes. -/
  | pass (nanos : Nat)

namespace State

def start : State where
  lock := .free
  slot := ⟨.idle, none, .zero, false⟩
  now := 0
  inspectors := .empty
  subjects := .empty
  visits := []
  violation := none

/-- The error number of a stop that took too long. -/
def timedOut : Error := .suspendFailed 110

/-- The error number of a phase that makes no sense. -/
def protocolError : Error := .suspendFailed 71

/-- The clock counts whole seconds up to this number. -/
def clockLimit : Nat := 0x8000000000000000

/-- A deadline that the clock can express. -/
def deadline? (now timeout : Nat) : Option Nat :=
  if (now + timeout) / 1000000000 < clockLimit then some (now + timeout) else none

def moveTo (s : State) (o : OsThread) (p : Inspecting) : State :=
  { s with inspectors := s.inspectors.set o p }

def onSubject (s : State) (t : Identity) (f : Subject → Subject) : State :=
  { s with subjects := s.subjects.modify t f }

def moveHandler (s : State) (t : Identity) (h : Handling) : State :=
  s.onSubject t ({ · with handler := h })

def onSlot (s : State) (f : Slot → Slot) : State := { s with slot := f s.slot }

def takeLock (s : State) (o : OsThread) (q : Request) : Option State :=
  match s.lock.take o with
  | .taken lock => some ({ s with lock := lock }.moveTo o (.judging q))
  | .busy => none
  | .deadlock =>
    some { s with violation := some (o, .unexpected "pthread_mutex_lock" Mutex.deadlockCode) }

def dropLock (s : State) (o : OsThread) (outcome : Outcome) : State :=
  match s.lock.release? o with
  | some lock => { s with lock := lock }.moveTo o (.out (some outcome))
  | none => { s with violation := some (o, .lockNotHeld) }

/-- The target has been stopped, and its registers have been read. -/
def captured (s : State) (o : OsThread) (q : Request) (r : Registers) : State :=
  if q.visiting then { s with visits := (o, q.target, r) :: s.visits }.moveTo o .resuming
  else s.moveTo o (.holding q r)

/-- The signal of an inspector reaches its target, which an ended one does not notice. -/
def send (s : State) (t : Identity) : State :=
  s.onSubject t fun x => if x.ended then x else { x with pending := true }

/-- An inspector's next step.
mirrors `ThreadInspector.suspend` and `visit`, `PausedThread.set_registers` and `finish` -/
def advance (s : State) (o : OsThread) : Option State :=
  match s.inspectors.get o with
  | .out _ | .holding .. => none
  | .locking q => s.takeLock o q
  | .judging q =>
    some (s.moveTo o
      (if (s.subjects.get q.target).live then .resolving q
        else .unlocking (.failed .threadFinished)))
  | .resolving q =>
    some (s.moveTo o
      (if (s.subjects.get q.target).known then .aiming q
        else .unlocking (.failed .threadFinished)))
  | .aiming q => some ((s.onSlot ({ · with target := some q.target })).moveTo o (.clearing q))
  | .clearing q => some ((s.onSlot ({ · with overwritten := false })).moveTo o (.arming q))
  | .arming q => some ((s.onSlot ({ · with phase := .requested })).moveTo o (.signalling q))
  | .signalling q => some ((s.send q.target).moveTo o (.timing q))
  | .disarming e =>
    some ((s.onSlot ({ · with phase := .idle })).moveTo o (.unlocking (.failed e)))
  | .timing q =>
    match deadline? s.now q.timeout with
    | some d => some (s.moveTo o (.polling q d))
    | none => some (s.moveTo o (.unlocking .overflowed))
  | .polling q d =>
    match s.slot.phase with
    | .paused => some (s.moveTo o (.capturing q .ip .zero))
    | .requested => some (s.moveTo o (.weighing q d))
    | .idle | .resume => some (s.moveTo o .confused)
  | .weighing q d =>
    let gone := !(s.subjects.get q.target).live
    some (s.moveTo o (if d ≤ s.now ∨ gone then .withdrawing q d gone else .polling q d))
  | .withdrawing q d gone =>
    if s.slot.phase = .requested then
      some ((s.onSlot ({ · with phase := .idle })).moveTo o
        (.unlocking (.failed (if gone then .threadFinished else timedOut))))
    else some (s.moveTo o (.polling q d))
  | .confused =>
    some ((s.onSlot ({ · with phase := .idle })).moveTo o (.unlocking (.failed protocolError)))
  | .capturing q k got =>
    let got := k.put got (k.of s.slot.registers)
    match k.next? with
    | some k' => some (s.moveTo o (.capturing q k' got))
    | none => some (s.captured o q got)
  | .overwriting q k r =>
    let s := s.onSlot fun x => { x with registers := k.put x.registers (k.of r) }
    match k.next? with
    | some k' => some (s.moveTo o (.overwriting q k' r))
    | none => some (s.moveTo o (.marking q r))
  | .marking q r => some ((s.onSlot ({ · with overwritten := true })).moveTo o (.holding q r))
  | .resuming => some ((s.onSlot ({ · with phase := .resume })).moveTo o .draining)
  | .draining =>
    if s.slot.phase = .resume then none else some (s.moveTo o (.unlocking .resumed))
  | .unlocking outcome => some (s.dropLock o outcome)

/-- The next step of the handler of a thread.
mirrors `on_inspect` -/
def handle (s : State) (t : Identity) : Option State :=
  let x := s.subjects.get t
  match x.handler with
  | .out => none
  | .entered => some (s.moveHandler t (if s.slot.phase = .requested then .matching else .out))
  | .matching =>
    some (s.moveHandler t (if s.slot.target = some t then .storing .ip else .out))
  | .storing k =>
    let s := s.onSlot fun y =>
      { y with registers := k.put y.registers (k.of x.context.registers) }
    some (s.moveHandler t (match k.next? with | some k' => .storing k' | none => .clearing))
  | .clearing => some ((s.onSlot ({ · with overwritten := false })).moveHandler t .answering)
  | .answering =>
    if s.slot.phase = .requested then
      some ((s.onSlot ({ · with phase := .paused })).moveHandler t .parked)
    else some (s.moveHandler t .out)
  | .parked => if s.slot.phase = .paused then none else some (s.moveHandler t .checking)
  | .checking =>
    some (s.moveHandler t (if s.slot.overwritten then .reloading .ip .zero else .releasing))
  | .reloading k got =>
    let got := k.put got (k.of s.slot.registers)
    match k.next? with
    | some k' => some (s.moveHandler t (.reloading k' got))
    | none =>
      some (s.onSubject t fun y =>
        { y with context := y.context.withRegisters got, handler := .releasing })
  | .releasing => some ((s.onSlot ({ · with phase := .idle })).moveHandler t .out)

/-- A thread may run its own code: its handler is not running and its OS thread has not ended. -/
def isFree (s : State) (t : Identity) : Bool :=
  (s.subjects.get t).handler = .out && !(s.subjects.get t).ended

/-- A thread is not inspecting another one. -/
def isOut (s : State) (o : OsThread) : Bool :=
  match s.inspectors.get o with
  | .out _ => true
  | _ => false

/-- What a thread does about inspecting others, if it can. -/
def inspect (s : State) (o : OsThread) : Option State := if s.isFree o then s.advance o else none

/-- The registers of the thread that an inspector holds stopped. -/
def held? (s : State) (o : OsThread) : Option Registers :=
  match s.inspectors.get o with
  | .holding _ r => some r
  | _ => none

/-- An OS thread begins an inspection.
mirrors the check that `ThreadInspector.suspend` begins with -/
def ask (s : State) (o : OsThread) (caller : Identity) (q : Request) : State :=
  if caller = q.target ∨ ((s.subjects.get q.target).known ∧ q.target = o) then
    { s with violation := some (o, .selfInspection) }
  else s.moveTo o (.locking q)

/-- What happens at a label, if it can happen. -/
def step (s : State) (l : Label) : Option State :=
  if s.violation.isSome then none
  else
    match l with
    | .ask o caller q => if s.isOut o ∧ s.isFree o then some (s.ask o caller q) else none
    | .advance o => s.inspect o
    | .refuse o e =>
      match s.inspectors.get o with
      | .signalling q =>
        if (s.subjects.get q.target).ended then some (s.moveTo o (.disarming e)) else none
      | _ => none
    | .overwrite o r =>
      match s.inspectors.get o with
      | .holding q _ => some (s.moveTo o (.overwriting q .ip r))
      | _ => none
    | .resume o =>
      match s.inspectors.get o with
      | .holding .. => some (s.moveTo o .resuming)
      | _ => none
    | .deliver t =>
      let x := s.subjects.get t
      if x.pending ∧ ¬x.masked ∧ s.isFree t then
        some (s.onSubject t ({ · with pending := false, handler := .entered }))
      else none
    | .handle t => s.handle t
    | .stray t => some (s.send t)
    | .run t c => if s.isFree t then some (s.onSubject t ({ · with context := c })) else none
    | .mask t on => if s.isFree t then some (s.onSubject t ({ · with masked := on })) else none
    | .publish t => some (s.onSubject t ({ · with known := true }))
    | .finish t =>
      if s.isFree t ∧ s.isOut t then some (s.onSubject t ({ · with live := false })) else none
    | .leave t =>
      if s.isFree t ∧ s.isOut t ∧ ¬(s.subjects.get t).live then
        some (s.onSubject t ({ · with ended := true, pending := false }))
      else none
    | .pass nanos => some { s with now := s.now + nanos }

inductive Reachable (s₀ : State) : State → Prop
  | refl : Reachable s₀ s₀
  | step {s t : State} (l : Label) : Reachable s₀ s → s.step l = some t → Reachable s₀ t

end State
end VmHost.Inspect
