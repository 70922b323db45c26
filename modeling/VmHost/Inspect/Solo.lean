import VmHost.Inspect.Machine

/-!
# Inspections that nobody disturbs

One OS thread inspects one target while nobody else does anything. The handler on the target always
goes first; an inspector that can only wait for the target waits until its deadline. A visit and a
stop are run in this way to the next point at which the inspector has a choice.
-/
namespace VmHost.Inspect.State

/-- The inspection of a target goes on. -/
def soloStep (s : State) (o : OsThread) (t : Identity) : Option State :=
  s.step (.deliver t) <|> s.step (.handle t) <|>
    match s.inspectors.get o with
    | .weighing _ d => (s.step (.pass (d - s.now))).bind fun s => s.step (.advance o)
    | _ => s.step (.advance o)

/-- No inspection takes more steps than this from one choice of its inspector to the next. -/
def soloFuel : Nat := 64

/-- The inspection goes on until its inspector has a choice, for at most `fuel` steps. -/
def settle : Nat → State → OsThread → Identity → State
  | 0, s, _, _ => s
  | fuel + 1, s, o, t =>
    match s.soloStep o t with
    | some s' => settle fuel s' o t
    | none => s

/-- A label happens, and the inspection goes on until its inspector has a choice. -/
def after (s : State) (o : OsThread) (t : Identity) (l : Label) : State :=
  settle soloFuel ((s.step l).getD s) o t

/-- How the last inspection of an OS thread ended. -/
def outcome (s : State) (o : OsThread) : Except Error Unit :=
  match s.inspectors.get o with
  | .out (some (.failed e)) => .error e
  | _ => .ok ()

/-- An OS thread shows the registers of a target to a visitor: how that ended, and what each call of
the visitor got.
mirrors `ThreadInspector.visit` -/
def visit (s : State) (o : OsThread) (who target : Identity) (timeout : Nat) :
    Except Error Unit × List Registers × State :=
  let t := s.after o target (.ask o who ⟨target, timeout, true⟩)
  (t.outcome o, (t.visits.take (t.visits.length - s.visits.length)).map (·.2.2), t)

/-- An OS thread stops a target and holds it, if that succeeds.
mirrors `ThreadInspector.suspend` -/
def suspend (s : State) (o : OsThread) (who target : Identity) (timeout : Nat) : State :=
  s.after o target (.ask o who ⟨target, timeout, false⟩)

end VmHost.Inspect.State
