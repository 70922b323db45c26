import VmHost.Checkup.Run

/-!
# The command line

Runs a checkup: the sheet goes to the standard output, the log to the error output, snapshots into
the directory that the environment names.
-/
namespace VmHost.Main

/-- The variables that a checkup reads. -/
def variableNames : List String :=
  ["HOSTSYS_CRASH_DUMP_DIR", "HOSTSYS_THREAD_STACK_SIZE", "HOSTSYS_INSPECT_SIGNAL",
    "HOSTSYS_INSPECT_TIMEOUT_MS", "HOSTSYS_SNAPSHOT_MAX_FRAMES", "HOSTSYS_VERBOSE",
    "HOSTSYS_LOG_LEVEL", "HOSTSYS_FLUSH_EPRINT"]

def environment : IO Environment := do
  let values ← variableNames.mapM fun name => do
    return (← IO.getEnv name).map fun v => (name, Text.bytes v)
  return ⟨values.filterMap id⟩

/-- The directories on the way to a place. -/
def directories (p : Path) : List (Path × Entry) :=
  (List.range p.length).map fun k => (p.take (k + 1), .directory)

/-- An empty disk but for the directory of a configuration and those above it. -/
def disk (c : Config) : Disk :=
  match c.dumpDir with
  | none => ⟨[], []⟩
  | some dir =>
    let names := (Disk.components dir).filter fun c => c ≠ [] && c ≠ [0x2E]
    ⟨directories names, []⟩

/-- Writes the files of a disk to the real one, as far as that goes. -/
def store (c : Config) (d : Disk) : IO Unit := do
  let some dir := c.dumpDir.bind Text.decode? | return
  for (p, e) in d.entries do
    let name := (p.getLast?.bind Text.decode?).getD []
    if let .file content := e then
      try IO.FS.writeBinFile (String.ofList dir ++ "/" ++ String.ofList name) ⟨content.toArray⟩
      catch _ => pure ()

/-- The time of the wall clock is not at hand; snapshots are named after the time since the machine
was started. -/
def time : IO Snapshot.Time := do
  let ms ← IO.monoMsNow
  return ⟨ms / 1000, ms % 1000 * 1000000⟩

/-- The code of an ending, as a shell counts it. -/
def codeOf : Exit → Nat
  | .code n => n
  | .signal s => 128 + s.number

end VmHost.Main

open VmHost in
def main (args : List String) : IO UInt32 := do
  let env ← Main.environment
  let c := Config.ofEnvironment env
  let r := Checkup.run
    ⟨env, args.contains Checkup.crashOption, Main.disk c, ← Main.time⟩
  for line in r.output do IO.println line
  IO.eprint r.host.console.text
  Main.store c r.disk
  return (Main.codeOf r.exit).toUInt32
