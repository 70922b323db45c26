import VmHost.Fault.Registry
import VmHost.Platform
import VmHost.Thread.Start

/-!
# A session of faults

A process keeps interceptors and platforms in numbered slots, registers handlers through them, and
loads words from memory. A load that meets a byte which cannot be read is a fault at that byte; the
thread goes on as the handler says, or as somebody else's handler does, which was there before.
-/
namespace VmHost.Fault.Session

/-- What is kept in a slot. A platform has an interceptor of its own. -/
inductive Slot
  | interceptor (i : Interceptor)
  | platform (i : Interceptor) (p : Platform)

/-- How a handler behaves: it writes some registers and then declines, or it resumes after the
load, for one address only if that is given. -/
structure Plan where
  resumes : Bool
  changes : Changes
  only : Option UInt64
  deriving DecidableEq, Repr

inductive Command
  | create (h : Nat) (maxFrames : UInt64)
  /-- Puts a configuration into force; an environment that comes with it stays in force too. -/
  | createPlatform (h : Nat) (env : Option Environment) (c : Config)
  | drop (h : Nat)
  | owns (h : Nat)
  | debug (h : Nat)
  /-- Registers a handler; a platform has a snapshot directory of its own. -/
  | install (h : Nat) (dir : Option Bytes) (plan : Plan)
  | uninstall (h : Nat)
  /-- Loads from an address, with this word in the thread register, on the first thread or on a new
  one. -/
  | load (address thread : UInt64) (worker : Bool)
  /-- Makes a page unreadable again. -/
  | unmap (address : UInt64)
  deriving DecidableEq, Repr

structure Seen where
  signal : Int
  address : UInt64
  thread : UInt64
  /-- The instruction pointer and the stack pointer were those of the load. -/
  ipAtLoad : Bool
  stackAtLoad : Bool
  deriving DecidableEq, Repr

structure LoadReport where
  /-- The calls of registered handlers, and what the last of them saw. -/
  handlerCalls : Nat
  seen : Option Seen
  /-- The calls of the handler that was there before. -/
  otherCalls : Nat
  /-- The thread register afterwards. -/
  thread : UInt64
  /-- The frame and stack pointers afterwards, unless they were left alone. -/
  frame : Option UInt64
  stack : Option UInt64
  deriving DecidableEq, Repr

inductive Result
  | ok
  | failed (e : Error)
  | none
  | bool (value : Bool)
  | text (s : String)
  | outcome (r : Except Error Unit)
  | loaded (r : LoadReport)

structure State extends Registry where
  host : Host
  slots : Row (Option Slot)
  /-- How many threads have been started. -/
  started : Nat
  /-- The action of both signals in the beginning. -/
  first : Disposition

def atLoad (thread : UInt64) : Context :=
  ((((Context.zero.set .rip 0x400000).set .rbp 0x7FFC00000100).set .rsp 0x7FFC00000000).set
    Context.threadRegister thread)

/-- The instruction pointer after the load. -/
def afterLoad : UInt64 := 0x400003

/-- The addresses that belong to a file without content. -/
def hollowBase : UInt64 := 0x1100000000

/-- The kind of a fault at an address. -/
def kindOf (address : UInt64) : Kind :=
  if hollowBase ≤ address ∧ address < hollowBase + 4096 then .bus else .segv

/-- The handler that follows a plan. -/
def Plan.handler (p : Plan) : Handler := fun v =>
  if p.resumes && p.only.all (· = v.address) then
    ({ p.changes with ip := some afterLoad }, .resume)
  else (p.changes, .decline)

namespace State

/-- Begins a session in which both signals have an action. -/
def start (h : Host) (first : Disposition) (disk : Disk) (time : Snapshot.Time) (memory : Memory) :
    State where
  toRegistry := .start (.start (fun _ => first) disk time memory)
  host := h
  slots := .empty
  started := 0
  first := first

def main : OsThread := 0

/-- An operation on the interceptors has been done. -/
def withRegistry (s : State) (x : Option Answer × Registry) : Option Answer × State :=
  (x.1, { s with toRegistry := x.2 })

def log (s : State) (level : Log.Level) (message : String) : State :=
  { s with host := s.host.log level message }

def dispose (s : State) (i : Interceptor) : State :=
  match s.withRegistry (s.toRegistry.dispose main i) with
  | (some (.bool true), s) => s.log .debug "fault handler removed with its interceptor"
  | (_, s) => s

def Slot.handle : Slot → Interceptor
  | .interceptor i | .platform i _ => i

/-- Puts something with a new interceptor into a slot, whose old content is disposed of. -/
def fill (s : State) (h : Nat) (maxFrames : UInt64) (make : Interceptor → Slot) : State :=
  let (i, r) := s.toRegistry.create maxFrames
  let old := s.slots.get h
  let s := { s with toRegistry := r, slots := s.slots.set h (some (make i)) }
  match old with
  | some y => s.dispose (Slot.handle y)
  | none => s

def clear (s : State) (h : Nat) : State :=
  match s.slots.get h with
  | some y => { s with slots := s.slots.set h Option.none }.dispose (Slot.handle y)
  | none => s

/-- The outcome of a job that only succeeds or fails. -/
def outcomeOf : Option Answer → Except Error Unit
  | some (.failed e) => .error e
  | _ => .ok ()

/-- The snapshot directory as it is logged. -/
def dirText : Option Bytes → String
  | some dir => String.ofList (Text.decodeLossy dir)
  | none => "off"

/-- Registers a handler through an interceptor. -/
def install (s : State) (i : Interceptor) (dir : Option Bytes) (plan : Plan) : Result × State :=
  match s.withRegistry (s.toRegistry.install main i plan.handler dir) with
  | (some .done, s) =>
    (.outcome (.ok ()), s.log .info ("fault handler installed (snapshots: " ++ dirText dir ++ ")"))
  | (answer, s) => (.outcome (outcomeOf answer), s)

/-- Removes the handler that was registered through an interceptor. -/
def uninstall (s : State) (i : Interceptor) : Result × State :=
  match s.withRegistry (s.toRegistry.uninstall main i) with
  | (some .done, s) => (.outcome (.ok ()), s.log .info "fault handler removed")
  | (answer, s) => (.outcome (outcomeOf answer), s)

def withMemory (s : State) (m : Memory) : State :=
  { s with faults := { s.faults with memory := m } }

/-- Loads from an address until the load succeeds or is skipped, with at most `fuel` faults: the
registers afterwards, and the calls of the handler that was there before. Somebody else's plain
handler makes the page readable, so that the load gets on; a detailed one skips the load. -/
def load (address : UInt64) (o : OsThread) : Nat → State → Context → Nat → Context × Nat × State
  | 0, s, c, others => (c, others, s)
  | fuel + 1, s, c, others =>
    match s.faults.memory.obstacle? address with
    | none => (c.set .rip afterLoad, others, s)
    | some place =>
      let before := s.faults.outcomes.length
      let s := { s with faults := s.faults.after o (.fault o (kindOf place) place c) }
      let new := s.faults.outcomes.take (s.faults.outcomes.length - before)
      match new.head? with
      | none => (c, others, s)
      | some x =>
        match x.ending with
        | .resumed => (x.after, others, s)
        | .passed (some .plain) | .direct .plain =>
          load address o fuel (s.withMemory (s.faults.memory.clear (pageOf place)))
            x.after (others + 1)
        | .passed (some .detailed) | .direct .detailed =>
          (x.after.set .rip afterLoad, others + 1, s)
        | _ => load address o fuel s x.after others

/-- More faults than this cannot be needed to end a load, which meets at most two pages. -/
def loadFuel : Nat := 8

def seenOf (c : Context) (v : View) : Seen where
  signal := v.signal
  address := v.address
  thread := v.thread
  ipAtLoad := v.ip = c.registers.ip
  stackAtLoad := v.stack = c.registers.stack

/-- What the last handler of a load put into force. -/
def changesOf (calls : List HandlerCall) : Option Changes :=
  calls.head?.bind fun x => if x.action = .resume then some x.changes else none

/-- Loads from an address on a thread, and reports what happened. -/
def loadOn (s : State) (o : OsThread) (address thread : UInt64) : Result × State :=
  let c := atLoad thread
  let before := s.faults.handled.length
  let (after, others, s) := load address o loadFuel s c 0
  let calls := s.faults.handled.take (s.faults.handled.length - before)
  let changes := changesOf calls
  (.loaded {
    handlerCalls := calls.length
    seen := calls.head?.map fun x => seenOf c x.view
    otherCalls := others
    thread := after.thread
    frame := (changes.bind (·.frame)).map fun _ => after.registers.frame
    stack := (changes.bind (·.stack)).map fun _ => after.registers.stack }, s)

/-- Does something. An empty slot gives nothing. -/
def step (s : State) : Command → Result × State
  | .create h maxFrames => (.ok, s.fill h maxFrames .interceptor)
  | .createPlatform h env c =>
    match Platform.create (env.elim s.host s.host.inEnvironment) c with
    | (.ok p, host) => (.ok, { s with host := host }.fill h p.config.maxFrames (.platform · p))
    | (.error e, host) => (.failed e, { s with host := host })
  | .drop h => (.ok, s.clear h)
  | .owns h =>
    match s.slots.get h with
    | some (.interceptor i) =>
      match s.withRegistry (s.toRegistry.owns main i) with
      | (some (.bool b), s) => (.bool b, s)
      | (_, s) => (.none, s)
    | _ => (.none, s)
  | .debug h =>
    match s.slots.get h with
    | some (.interceptor i) =>
      (.text ("max_frames: " ++ toString i.maxFrames.toNat ++ " \x7d"), s)
    | some (.platform _ p) => (.text p.config.debug, s)
    | none => (.none, s)
  | .install h dir plan =>
    match s.slots.get h with
    | some (.interceptor i) => s.install i dir plan
    | some (.platform i p) => s.install i p.config.dumpDir plan
    | none => (.none, s)
  | .uninstall h =>
    match s.slots.get h with
    | some x => s.uninstall (Slot.handle x)
    | none => (.none, s)
  | .load address thread worker =>
    if worker then
      let k := s.started + 1
      let s := { s with started := k, host := (s.host.startThread k 0).2 }
      s.loadOn k address thread
    else s.loadOn main address thread
  | .unmap address => (.ok, s.withMemory (s.faults.memory.hide (pageOf address)))

def ended? (s : State) : Option Signal := s.faults.ended

def close (s : State) : State := (List.range s.slots.cells.length).foldl clear s

/-- Both signals have the action that they had in the beginning. -/
def isRestored (s : State) : Bool :=
  s.faults.actions .segv = s.first && s.faults.actions .bus = s.first

end State
end VmHost.Fault.Session
