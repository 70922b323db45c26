import VmHost.Monitor.Handoff
import VmHost.Monitor.Tally
import VmHost.Monitor.Turns
import VmHost.Platform
import VmHost.Thread.Life
import VmHost.Thread.Start

/-!
# Crowds at a monitor

A crowd of threads works on one monitor until all are over: they count together, take turns, or
hand items over. The report says what they brought about and what went wrong on the way, and is the
same for every order of their steps.
-/
namespace VmHost.Monitor.Crowd

inductive Kind
  /-- Each adds to a count. -/
  | tally
  /-- They take turns. -/
  | turns
  /-- Threads with an even number put 1, 2, and so on; the others add up what they take. -/
  | handoff
  deriving DecidableEq, Repr

structure Report where
  /-- The additions, the turns, or the sum of all items that were taken. -/
  total : Nat
  /-- Overlaps, overwritten items and interrupted waits. -/
  bad : Nat
  /-- Somebody owns the monitor. -/
  owned : Bool
  /-- The stages of the threads after somebody has joined them all. -/
  stages : List Stage
  deriving DecidableEq, Repr

/-- A generous number of rounds: each thread has so many times its turn for each thing it does, and
as often again for each other thread that it may notify or be woken by. -/
def fuel (threads rounds : Nat) : Nat := 64 * (threads + 1) * (threads + 1) * (rounds + 1)

/-- The stage of a thread, ended or not, after another one has joined it as far as that goes. -/
def stageOf (joiner o : OsThread) (ended : Bool) : Stage :=
  let l := Life.started o
  ((if ended then l.complete false else l).joinBy joiner).stage

section
variable {Shared Own : Type} [Inhabited Own]

/-- Lets the first `n` threads run to their end. -/
def finish (client : Client Shared Own) (n rounds : Nat) (w : World Shared Own) :
    World Shared Own := w.run client n (fuel n rounds)

def stages (client : Client Shared Own) (n : Nat) (w : World Shared Own) : List Stage :=
  (List.range n).map fun o => stageOf n o (w.isOver client o)

end

def roleOf (rounds k : Nat) : Handoff.Role :=
  if k % 2 = 0 then .producer ((List.range rounds).map (· + 1)) else .consumer rounds

def isOwned {Shared Own : Type} (w : World Shared Own) (m : MonitorId) : Bool :=
  (w.monitors.monitors.get m).owner.isSome

/-- The process around a crowd: a platform that has started its threads, the first with number
one. -/
def gather (h : Host) (threads : Nat) : Host :=
  (Platform.furnish h).startThreads 1 threads Config.standard.stackSize.toNat

/-- A crowd of this many threads does something, each this many times. -/
def run (k : Kind) (threads rounds : Nat) : Report :=
  match k with
  | .tally =>
    let w := finish Tally.client threads rounds (Tally.start threads rounds)
    ⟨w.shared.count, w.shared.overlaps, isOwned w Tally.monitor, stages Tally.client threads w⟩
  | .turns =>
    let client := Turns.client ⟨threads, true⟩
    let w := finish client threads rounds (Turns.start ⟨threads, true⟩ rounds)
    ⟨w.shared.turns, w.shared.interrupted, isOwned w Turns.monitor, stages client threads w⟩
  | .handoff =>
    let w := finish Handoff.client threads rounds
      (Handoff.start ((List.range threads).map (roleOf rounds)))
    ⟨w.shared.taken.foldl (· + ·) 0, w.shared.overwritten + w.shared.interrupted,
      isOwned w Handoff.monitor, stages Handoff.client threads w⟩

end VmHost.Monitor.Crowd
