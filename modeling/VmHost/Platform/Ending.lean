import VmHost.Platform
import VmHost.Snapshot.Write

/-!
# Ending a process on purpose

A platform ends its process with a code, or it aborts. An abort is reported on the console and, if
the configuration has a directory for snapshots, leaves a snapshot of the aborting thread there.
-/
namespace VmHost.Platform

/-- Where a snapshot of the process comes from and goes to. -/
structure Scene where
  disk : Disk
  time : Snapshot.Time
  memory : Memory
  /-- The number of the aborting OS thread, as the operating system counts them. -/
  tid : Int
  /-- Where the aborting thread stands. -/
  registers : Registers

/-- An abort as the header of a snapshot shows it: its signal, without an address. -/
def abortView (r : Registers) : Fault.View where
  ip := r.ip
  frame := r.frame
  stack := r.stack
  thread := 0
  signal := Signal.abort.number
  address := 0

/-- Leaves a snapshot, if the configuration has a directory for that; a directory that cannot be
used is worth a warning. -/
def snapshot (p : Platform) (h : Host) (s : Scene) : Host × Disk :=
  match p.config.dumpDir with
  | none => (h, s.disk)
  | some dir =>
    match Snapshot.Target.create dir p.config.maxFrames with
    | .ok t => (h, (Snapshot.write t s.disk s.time (abortView s.registers) s.tid s.memory).2)
    | .error e => (h.log .warn ("no snapshot: " ++ e.message), s.disk)

/-- Aborts the process.
mirrors `System.abort` -/
def abort (p : Platform) (h : Host) (s : Scene) : Host × Disk × Exit :=
  let (h, disk) := p.snapshot (h.log .error "aborting") s
  (h, disk, .signal .abort)

end VmHost.Platform
