import VmHost.Error
import VmHost.Snapshot.Buffer
import VmHost.Snapshot.Disk
import VmHost.Text.Digits

/-!
# Where snapshots go

A target is a directory and a number of frames, checked ahead of time. The files in it are named
after the time in milliseconds, with a number after that if the name is taken, up to fifteen. The
path of a file is put together in a buffer and ends with a zero byte.
-/
namespace VmHost.Snapshot

/-- An accepted directory, without slashes at its end, and a positive number of frames.
mirrors `SnapshotTarget` -/
structure Target where
  dir : Bytes
  maxFrames : UInt64
  deriving DecidableEq, Repr

/-- The longest directory path that is accepted, in bytes. -/
def dirLimit : Nat := 3800

def pathRoom : Nat := 4096

def attempts : Nat := 16

/-- The bytes without slashes at the end. -/
def trimSlashes (dir : Bytes) : Bytes := (dir.reverse.dropWhile (· = Disk.slash)).reverse

namespace Target

/-- Checks a directory path.
mirrors `SnapshotTarget.new` -/
def create (dir : Bytes) (maxFrames : UInt64) : Except Error Target :=
  if !Text.isUtf8 dir then .error (.invalidArgument "snapshot directory is not valid UTF-8")
  else if dir = [] then .error (.invalidArgument "snapshot directory is empty")
  else if dirLimit < dir.length ∨ dir.contains 0 then
    .error (.invalidArgument "snapshot directory path unusable")
  else .ok ⟨trimSlashes dir, max maxFrames 1⟩

/-- The pieces of the path of a file: after the time, the number of the attempt unless it is the
first one. -/
def pathPieces (t : Target) (millis attempt : Nat) : List Bytes :=
  let number := if attempt = 0 then [] else [Text.bytes "-", Text.encode (Text.decimal attempt)]
  [t.dir, Text.bytes "/crash-", Text.encode (Text.decimal millis)] ++ number ++
    [Text.bytes ".dump", [0]]

/-- The path of a file as it lies in the buffer, and whether it fits. -/
def path (t : Target) (millis attempt : Nat) : Bool × Bytes :=
  let r := (Buffer.empty pathRoom).writeAll (t.pathPieces millis attempt)
  (r.1, r.2.bytes)

/-- The bytes before the first zero byte, which is what the operating system reads of a path. -/
def untilZero (bytes : Bytes) : Bytes := bytes.takeWhile (· ≠ 0)

/-- Creates a file under the first free name from an attempt on, with `left` attempts to go. -/
def createFrom (t : Target) (d : Disk) (millis : Nat) : Nat → Nat → Option (Path × Disk)
  | 0, _ => none
  | left + 1, attempt =>
    match t.path millis attempt with
    | (false, _) => none
    | (true, bytes) =>
      match d.create (untilZero bytes) with
      | .created p d' => some (p, d')
      | .occupied => t.createFrom d millis left (attempt + 1)
      | .failed => none

/-- Creates a file for a snapshot at this time.
mirrors `create_file` -/
def createFile (t : Target) (d : Disk) (millis : Nat) : Option (Path × Disk) :=
  t.createFrom d millis attempts 0

end Target
end VmHost.Snapshot
