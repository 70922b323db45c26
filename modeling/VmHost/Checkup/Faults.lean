import VmHost.Checkup.Bench

/-!
# The part of a checkup about faults

A handler that skips one bad load is registered, a second registration is refused, the load is made
a few times, and the handler is removed once and not twice.
-/
namespace VmHost.Checkup.Faults

open Fault.Session (Plan Command)

def badAddress : UInt64 := 16

def untouched : Fault.Changes := ⟨none, none, none, none⟩

/-- Skips loads from the bad address. -/
def skip : Plan := ⟨true, untouched, some badAddress⟩

def decline : Plan := ⟨false, untouched, none⟩

def install (b : Bench) (plan : Plan) : Except Error Unit × Bench :=
  match b.command (.install Bench.slot none plan) with
  | (.outcome r, b) => (r, b)
  | (_, b) => (.ok (), b)

def uninstall (b : Bench) : Except Error Unit × Bench :=
  match b.command (.uninstall Bench.slot) with
  | (.outcome r, b) => (r, b)
  | (_, b) => (.ok (), b)

def badLoad (b : Bench) : Bench := (b.command (.load badAddress 0 false)).2

def calls (b : Bench) : Nat := b.session.faults.handled.length

def loads : Nat := 10

def isError (r : Except Error Unit) (e : Error) : Bool :=
  match r with
  | .error e' => e' = e
  | .ok () => false

/-- All checks of the part; without a handler there is only one. -/
def run (b : Bench) : List Item × Bench :=
  let title := Item.part "Part C: Fault interception"
  match install b skip with
  | (.error e, b) => ([title, .check "install fault handler" (some e.message)], b)
  | (.ok (), b) =>
    let (again, b) := install b decline
    let before := calls b
    let b := (List.range loads).foldl (fun b _ => badLoad b) b
    let hits := calls b - before
    let (first, b) := uninstall b
    let (second, b) := uninstall b
    ([title, .check "install fault handler" none,
      .ofBool "second registration rejected" (isError again .alreadyInstalled) (outcomeText again),
      .ofBool (toString loads ++ " faults resumed") (hits = loads) (toString hits ++ " faults"),
      .ofBool "uninstall" (statusOf first = 0) (outcomeText first),
      .ofBool "second uninstall rejected" (isError second .notInstalled) (outcomeText second)], b)

end VmHost.Checkup.Faults
