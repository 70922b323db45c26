import VmHost.Checkup.Bench
import VmHost.Inspect.Steering

/-!
# The part of a checkup about inspection

A spinning thread is visited, visited again many times, stopped and let go with its own registers,
and visited in vain after its end.
-/
namespace VmHost.Checkup.Inspection

open Inspect (State)
open Inspect.Steering (inspector spinner)

/-- The address of a variable on the stack of the spinning thread. -/
def marker : UInt64 := 0x7FFC00000080

/-- How far from that variable the stack pointer may be. -/
def reach : UInt64 := 0x100000

/-- The registers can be those of the spinning thread. -/
def isPlausible (r : Registers) : Bool :=
  r.ip ≠ 0 && r.stack ≤ marker && marker - r.stack < reach

def hexText (w : UInt64) : String := "0x" ++ String.ofList (Text.hex w.toNat)

def visitCheck (timeout : Nat) (s : State) : List Item × State :=
  let (outcome, seen, s) := s.visit inspector inspector spinner timeout
  (match outcome, seen.getLast? with
    | .ok (), some r =>
      [.note ("ip=" ++ hexText r.ip ++ " frame=" ++ hexText r.frame ++ " stack=" ++
          hexText r.stack),
        .ofBool "visit reports registers on target stack" (isPlausible r)
          "stack pointer far from target local"]
    | .error e, _ => [.check "visit" (some e.message)]
    | .ok (), none => [.check "visit" (some "visitor never ran")], s)

def visits : Nat := 100

def manyVisits (s : State) : List Item × State :=
  let before := s.now
  let (seen, s) := Inspect.Steering.visitAll visits s
  ([.ofBool (toString visits ++ " consecutive visits") (seen.length = visits)
      (toString seen.length ++ " visits"),
    each ((s.now - before) / 1000000) visits "visit"], s)

/-- A stop, after which the thread goes on with the registers that it had. -/
def stopCheck (timeout : Nat) (s : State) : List Item × State :=
  let s := s.suspend inspector inspector spinner timeout
  match s.held? inspector with
  | some r =>
    let s := s.after inspector spinner (.overwrite inspector r)
    ([.ofBool "suspend + set_registers + resume" (s.held? inspector = some r) "registers changed"],
      s.after inspector spinner (.resume inspector))
  | none =>
    (match s.outcome inspector with
      | .error e => [.check "suspend" (some e.message)]
      | .ok () => [], s)

/-- A visit after the end of the thread. -/
def finishedCheck (timeout : Nat) (s : State) : List Item :=
  let ended := ((s.step (.finish spinner)).bind fun s => s.step (.leave spinner)).getD s
  let (outcome, _, _) := ended.visit inspector inspector spinner timeout
  let reported := match outcome with
    | .error e => e = .threadFinished
    | .ok () => false
  [.ofBool "finished thread is reported" reported (outcomeText outcome)]

def run (b : Bench) : List Item × Bench :=
  let title := Item.part "Part B: Thread inspection"
  match b.startThread with
  | (.error e, b) => ([title, .check "start spinner" (some e.message)], b)
  | (.ok (), b) =>
    let timeout := b.platform.config.inspectTimeout.toNanos
    let (once, s) := visitCheck timeout Inspect.Steering.start
    let (often, s) := manyVisits s
    let (stopped, s) := stopCheck timeout s
    (title :: once ++ often ++ stopped ++ finishedCheck timeout s, b)

end VmHost.Checkup.Inspection
