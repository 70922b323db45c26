import VmHost.Fault.View
import VmHost.Snapshot.Target
import VmHost.Snapshot.Walk

/-!
# Writing snapshots

A snapshot is a text file: a header with the signal, the address and the registers of a fault, and
one line for each frame, the first one with the instruction pointer. Every line is put together in a
buffer of a fixed capacity.
-/
namespace VmHost.Snapshot

structure Time where
  secs : Nat
  nanos : Nat
  deriving DecidableEq, Repr

/-- The time in whole milliseconds.
mirrors `now_millis` -/
def Time.millis (t : Time) : Nat := t.secs * 1000 + t.nanos / 1000000

def lineRoom : Nat := 256

def word (w : UInt64) : Bytes := Text.encode (Text.hexWord w)

def number (i : Int) : Bytes := Text.encode (Text.signedDecimal i)

/-- The first lines: the fault. -/
def faultPieces (v : Fault.View) (tid : Int) : List Bytes :=
  [Text.bytes "hostsys crash snapshot\nsignal: ", number v.signal, Text.bytes "\naddress: ",
    word v.address, Text.bytes "\ntid: ", number tid, Text.bytes "\n"]

/-- The next lines: the registers. -/
def registerPieces (v : Fault.View) : List Bytes :=
  [Text.bytes "ip: ", word v.ip, Text.bytes "\nframe: ", word v.frame, Text.bytes "\nstack: ",
    word v.stack, Text.bytes "\nthread-register (", Text.bytes Context.threadRegisterName,
    Text.bytes "): ", word v.thread, Text.bytes "\nframes:\n"]

def framePieces (k : Nat) (address : UInt64) : List Bytes :=
  [Text.bytes "  #", number k, Text.bytes " ", word address, Text.bytes "\n"]

/-- Lines as they come out of the buffer. -/
def line (pieces : List Bytes) : Bytes := Buffer.format lineRoom pieces

/-- The lines of frames, numbered from `k` on. -/
def frameLines : Nat → List UInt64 → Bytes
  | _, [] => []
  | k, address :: rest => line (framePieces k address) ++ frameLines (k + 1) rest

/-- The walk over the frames of a fault; the first frame of a snapshot is not part of it. -/
def walk (t : Target) (v : Fault.View) (mem : Memory) : Walk :=
  Walk.run mem v.stack (t.maxFrames.toNat - 1) v.frame

def content (v : Fault.View) (tid : Int) (returns : List UInt64) : Bytes :=
  line (faultPieces v tid) ++ line (registerPieces v) ++ frameLines 0 (v.ip :: returns)

/-- What became of a snapshot. -/
inductive Written
  | written
  /-- No file could be created. -/
  | skipped
  /-- The walk broke off while the file was being written. -/
  | broken
  deriving DecidableEq, Repr

/-- Writes a snapshot.
mirrors `snapshot.write` -/
def write (t : Target) (d : Disk) (now : Time) (v : Fault.View) (tid : Int) (mem : Memory) :
    Written × Disk :=
  match t.createFile d now.millis with
  | none => (.skipped, d)
  | some (p, d') =>
    let w := walk t v mem
    (if w.broken then .broken else .written, d'.append p (content v tid w.returns))

end VmHost.Snapshot
