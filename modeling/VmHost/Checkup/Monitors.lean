import VmHost.Checkup.Bench
import VmHost.Monitor.Solo
import VmHost.Monitor.Turns

/-!
# The part of a checkup about locks and monitors

One monitor goes through all checks: entered twice and left, waited on with a time limit, passed to
and fro between two players, and waited on by a thread that is interrupted.
-/
namespace VmHost.Checkup.Monitors

open Monitor (State Reply)

/-- The OS thread of the checkup, and its identity; two players and a waiting thread come before. -/
def me : OsThread := 3

/-- The thread that waits to be interrupted. -/
def waiter : OsThread := 2

/-- The monitor under test, which is the one that the players play in. -/
def monitor : MonitorId := Monitor.Turns.monitor

/-- The thread of the checkup carries out an operation. -/
def ask (s : State) (c : Monitor.Call) : State := s.carryOut me me c

/-- A held lock is not to be had. -/
def lockCheck : Item :=
  let busy := match Mutex.free.take me with
    | .taken held =>
      match held.take me with
      | .taken _ => false
      | .busy | .deadlock => true
    | .busy | .deadlock => false
  .ofBool "lock excludes try_acquire while held" busy "try_acquire succeeded"

/-- The depth of a monitor that was entered twice, and its owner after it has been left. -/
def nesting (s : State) : List Item × State :=
  let s := ask (ask (ask s (.acquire monitor)) (.acquire monitor)) (.depth monitor)
  let depth := match s.reply? me with
    | some (.count n) => n
    | _ => 0
  let s := ask (ask s (.release monitor)) (.release monitor)
  ([.ofBool "reentrant acquire reaches depth 2" (depth = 2) ("depth " ++ toString depth),
    .ofBool "fully released monitor has no owner" (s.monitors.get monitor).owner.isNone
      "still owned"], s)

/-- The time limit of the wait that nobody ends, in milliseconds. -/
def timeLimit : Nat := 20

/-- The shortest time that such a wait may take, in milliseconds. -/
def shortest : Nat := 15

/-- A wait with a time limit, which nobody ends. -/
def timedWait (s : State) : List Item × State :=
  let before := s.now
  let s := ask (ask s (.acquire monitor)) (.wait monitor timeLimit)
  let interrupted := s.reply? me = some (.bool true)
  let waited := s.now - before
  ([.ofBool "timed wait returns after timeout" (!interrupted && shortest ≤ waited)
      ("interrupted=" ++ Config.boolText interrupted ++ " waited=" ++
        (Span.ofMillis waited.toUInt64).text)],
    ask s (.release monitor))

def rounds : Nat := 1000

/-- Two players, each of whom notifies the other one. -/
def rules : Monitor.Turns.Rules := ⟨2, false⟩

/-- The failed starts of players, as checks. -/
def failedStarts (starts : List (Except Error Unit)) : List Item :=
  starts.filterMap fun r =>
    match r with
    | .ok () => none
    | .error e => some (.check "start ping-pong thread" (some e.message))

/-- More rounds than two players need. -/
def fuel : Nat := 64 * rounds

/-- Two players take turns. -/
def pingPong (b : Bench) (s : State) : List Item × State × Bench :=
  let (first, b) := b.startThread
  let (second, b) := b.startThread
  let failed := failedStarts [first, second]
  let w := { Monitor.Turns.start rules rounds with monitors := s }
  let client := Monitor.Turns.client rules
  let w := if failed.isEmpty then w.run client 2 fuel else w
  let done := failed.isEmpty && w.isOver client 0 && w.isOver client 1
  let turns := w.shared.turns
  (failed ++
    [.ofBool ("ping-pong " ++ toString (rounds * 2) ++ " handoffs")
        (done && turns = rounds * 2) (toString turns ++ " turns"),
      each (w.monitors.now - s.now) (rounds * 2) "handoff"],
    w.monitors, b)

/-- The result of a wait that may not have ended, as a value that may be missing. -/
def waitText : Option Reply → String
  | some (.bool b) => Text.optional (some (Config.boolText b))
  | _ => Text.optional none

/-- A thread waits without a time limit, and is interrupted. -/
def interruption (b : Bench) (s : State) : List Item × State × Bench :=
  match b.startThread with
  | (.error e, b) => ([.check "start waiter" (some e.message)], s, b)
  | (.ok (), b) =>
    let s := s.carryOut waiter waiter (.acquire monitor)
    let s := s.carryOut waiter waiter (.wait monitor 0)
    let s := ask (ask (ask s (.acquire monitor)) (.waiterCount monitor)) (.release monitor)
    let s := ask s (.interrupt waiter)
    let s := s.settle s.soloFuel waiter
    let got := s.reply? waiter
    ([.ofBool "interrupted wait reports true" (got = some (.bool true)) (waitText got)],
      s.carryOut waiter waiter (.release monitor), b)

def run (b : Bench) : List Item × Bench :=
  let (nested, s) := nesting .start
  let (timed, s) := timedWait s
  let (played, s, b) := pingPong b s
  let (interrupted, _, b) := interruption b s
  (.part "Part A: Locks and monitors" :: lockCheck :: nested ++ timed ++ played ++ interrupted, b)

end VmHost.Checkup.Monitors
