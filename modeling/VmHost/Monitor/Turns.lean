import VmHost.Monitor.Client

/-!
# Taking turns

A number of players share a count of turns. A player waits inside a monitor until the count,
modulo the number of players, is its own number; then it counts one more turn and notifies the
others, all of them or only the first. Each player has a fixed number of turns.
-/
namespace VmHost.Monitor.Turns

structure Rules where
  players : Nat
  /-- Notify every waiting player and not only the one that waits longest. -/
  everybody : Bool
  deriving DecidableEq, Repr

inductive Place
  /-- Before the monitor. -/
  | outside
  /-- In the monitor, about to look at the count. -/
  | looking
  /-- Behind the monitor. -/
  | gone
  deriving DecidableEq, Repr

structure Player where
  side : Nat
  /-- The turns that it still has. -/
  left : Nat
  place : Place
  deriving DecidableEq, Repr

instance : Inhabited Player := ⟨⟨0, 0, .gone⟩⟩

/-- What the players share: the turns so far, and the waits that were interrupted. -/
structure Board where
  turns : Nat
  interrupted : Nat
  deriving DecidableEq, Repr

/-- The monitor that everybody plays in. -/
def monitor : MonitorId := 0

/-- How a player notifies others. -/
def Rules.notify (g : Rules) : Call := if g.everybody then .notifyAll monitor else .notify monitor

/-- Counts an interrupted wait; no other operation of a player answers with a truth value. -/
def Board.note (b : Board) (r : Option Reply) : Board :=
  if r = some (.bool true) then { b with interrupted := b.interrupted + 1 } else b

def client (g : Rules) : Client Board Player := fun b p r =>
  match p.place with
  | .outside => .call (.acquire monitor) b { p with place := .looking }
  | .looking =>
    let b := b.note r
    match p.left with
    | 0 => .call (.release monitor) b { p with place := .gone }
    | left + 1 =>
      if b.turns % g.players = p.side then
        .call g.notify { b with turns := b.turns + 1 } { p with left := left }
      else .call (.wait monitor 0) b p
  | .gone => .stop

/-- Players with this many turns each, before the monitor. -/
def start (g : Rules) (rounds : Nat) : World Board Player :=
  .start ⟨0, 0⟩ ((List.range g.players).map fun k => ⟨k, rounds, .outside⟩)

end VmHost.Monitor.Turns
