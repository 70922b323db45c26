import VmHost.Checkup.Calls
import VmHost.Checkup.Faults
import VmHost.Checkup.Inspection
import VmHost.Checkup.Monitors
import VmHost.Platform.Ending

/-!
# A whole checkup

The configuration comes from the environment. If it is put into force, all parts run one after the
other, and the process ends with a code that says whether every check passed; on request it faults
on purpose after that. A checkup without a platform ends at once.
-/
namespace VmHost.Checkup

/-- What a checkup starts from. -/
structure Setup where
  env : Environment
  /-- Fault on purpose in the end. -/
  crash : Bool
  disk : Disk
  time : Snapshot.Time

structure Outcome where
  /-- The lines that were printed. -/
  output : List String
  host : Host
  disk : Disk
  exit : Exit
  /-- The checkup came to its summary, and the process was not ended by a signal. -/
  finished : Bool

def banner : String := "=== hostsys End-to-End Smoke Test ==="

/-- The option that asks for a fault on purpose. -/
def crashOption : String := "--crash"

/-- The lines of a checkup without a platform. -/
def fatal (e : Error) : List String :=
  ["", "FATAL: System::from_env failed: " ++ e.message ++ " (status " ++ toString e.status ++ ")"]

def parts (b : Bench) : List Item × Bench :=
  let (a, b) := Monitors.run b
  let (i, b) := Inspection.run b
  let (f, b) := Faults.run b
  let (c, b) := Calls.run b
  (a ++ i ++ f ++ c, b)

/-- Faults on purpose, or aborts if no handler can be registered. -/
def crash (b : Bench) : Bench × Exit :=
  let (r, b) := Faults.install b Faults.decline
  let b := if statusOf r = 0 then Faults.badLoad b else b
  match b.session.ended? with
  | some s => (b, .signal s)
  | none =>
    let f := b.session.faults
    let (h, disk, exit) :=
      b.platform.abort b.host ⟨f.disk, f.time, f.memory, 0, .zero⟩
    ({ b with session := { b.session with host := h, faults := { f with disk := disk } } }, exit)

/-- The checks of a platform. -/
def check (s : Setup) (h : Host) (p : Platform) : Outcome :=
  let h := { h with console := p.config.report.foldl Log.Console.print h.console }
  let (items, b) := parts (Bench.start h p s.disk s.time)
  let output := banner :: lines 1 items ++ summary items
  if s.crash then
    let (b, exit) := crash b
    { output := output ++
        ["", "Faulting on purpose (dump dir: " ++ p.config.dumpDirText ++ ")"]
      host := b.host, disk := b.session.faults.disk, exit := exit, finished := false }
  else
    { output := output
      host := b.host
      disk := b.session.faults.disk
      exit := .code (if failures items = 0 then 0 else 1)
      finished := true }

/-- A whole checkup.
mirrors the `main` of the smoke program -/
def run (s : Setup) : Outcome :=
  match Platform.create (Host.start s.env) (Config.ofEnvironment s.env) with
  | (.ok p, h) => check s h p
  | (.error e, h) =>
    { output := banner :: fatal e, host := h, disk := s.disk, exit := .code 1, finished := false }

end VmHost.Checkup
