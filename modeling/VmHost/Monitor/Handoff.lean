import VmHost.Monitor.Client

/-!
# Handing items over through one place

Producers put their items, one after the other, into a slot with room for one; consumers take items
out of it until they have had enough. Everybody works inside one monitor: whoever finds the slot in
the wrong state waits, and whoever has changed it notifies all others. Looking at the slot and
filling it are two steps, so that only the monitor keeps a full slot from being overwritten.
-/
namespace VmHost.Monitor.Handoff

/-- What a thread still has to do. -/
inductive Role
  /-- Put these items. -/
  | producer (items : List Nat)
  /-- Take this many items. -/
  | consumer (quota : Nat)
  deriving DecidableEq, Repr

inductive Place
  /-- Before the monitor. -/
  | outside
  /-- In the monitor, about to look at the slot. -/
  | looking
  /-- In the monitor, about to fill the slot, which it found empty. -/
  | filling
  /-- Behind the monitor. -/
  | gone
  deriving DecidableEq, Repr

/-- A producer or consumer. -/
structure Worker where
  role : Role
  place : Place
  /-- The items that it has taken, the last one first. -/
  taken : List Nat
  deriving DecidableEq, Repr

instance : Inhabited Worker := ⟨⟨.producer [], .gone, []⟩⟩

structure Table where
  slot : Option Nat
  /-- All items that were put, the last one first. -/
  put : List Nat
  /-- All items that were taken, the last one first. -/
  taken : List Nat
  /-- How often a full slot was filled. -/
  overwritten : Nat
  /-- How often a wait was interrupted. -/
  interrupted : Nat
  deriving DecidableEq, Repr

namespace Table

def empty : Table := ⟨none, [], [], 0, 0⟩

def fill (t : Table) (item : Nat) : Table :=
  { t with
    slot := some item
    put := item :: t.put
    overwritten := t.overwritten + if t.slot.isSome then 1 else 0 }

/-- Empties the slot, out of which an item was taken. -/
def clear (t : Table) (item : Nat) : Table := { t with slot := none, taken := item :: t.taken }

/-- Counts an interrupted wait; no other operation of a worker answers with a truth value. -/
def note (t : Table) (r : Option Reply) : Table :=
  if r = some (.bool true) then { t with interrupted := t.interrupted + 1 } else t

end Table

/-- The monitor that everybody works in. -/
def monitor : MonitorId := 0

/-- What a worker does when it looks at the slot. -/
def look (t : Table) (w : Worker) : Move Table Worker :=
  match w.role, t.slot with
  | .producer [], _ | .consumer 0, _ => .call (.release monitor) t { w with place := .gone }
  | .producer (_ :: _), none => .change t { w with place := .filling }
  | .producer (_ :: _), some _ => .call (.wait monitor 0) t w
  | .consumer (_ + 1), none => .call (.wait monitor 0) t w
  | .consumer (quota + 1), some item =>
    .call (.notifyAll monitor) (t.clear item)
      { w with role := .consumer quota, taken := item :: w.taken }

def client : Client Table Worker := fun t w r =>
  match w.place with
  | .outside => .call (.acquire monitor) t { w with place := .looking }
  | .looking => look (t.note r) w
  | .filling =>
    match w.role with
    | .producer (item :: items) =>
      .call (.notifyAll monitor) (t.fill item) { w with role := .producer items, place := .looking }
    | _ => .change t { w with place := .looking }
  | .gone => .stop

/-- Workers with these roles, before the monitor. -/
def start (roles : List Role) : World Table Worker :=
  .start .empty (roles.map fun r => ⟨r, .outside, []⟩)

end VmHost.Monitor.Handoff
