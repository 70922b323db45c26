import VmHost.Text.Bytes

/-!
# A disk with directories

The entries of a disk by their paths from the root: files with their content, and directories. A
path as a byte string is followed component by component; empty components and single dots stay
where they are, two dots go up, and everything before the last component has to be a directory.
-/
namespace VmHost

inductive Entry
  | file (content : Bytes)
  | directory
  deriving DecidableEq, Repr

/-- The components of a path from the root. -/
abbrev Path := List Bytes

/-- The entries of a disk, and the directory that relative paths start from. -/
structure Disk where
  entries : List (Path × Entry)
  working : Path
  deriving DecidableEq, Repr

namespace Disk

/-- The byte that separates components. -/
def slash : UInt8 := 0x2F

/-- The longest component that a directory can hold. -/
def nameLimit : Nat := 255

/-- The longest path that can be followed, with the byte that ends it. -/
def pathLimit : Nat := 4096

/-- The entry at a path. The root is always a directory. -/
def entry? (d : Disk) (p : Path) : Option Entry :=
  if p = [] then some .directory else d.entries.lookup p

def isDirectory (d : Disk) (p : Path) : Bool := d.entry? p = some .directory

/-- The components of a byte string: as many as slashes and one more. -/
def components : Bytes → List Bytes
  | [] => [[]]
  | b :: rest =>
    if b = slash then [] :: components rest
    else
      match components rest with
      | [] => [[b]]
      | c :: cs => (b :: c) :: cs

/-- Goes from a directory to a component of it. -/
def follow (d : Disk) (place : Path) (c : Bytes) : Option Path :=
  if !d.isDirectory place then none
  else if c = [] ∨ c = [0x2E] then some place
  else if c = [0x2E, 0x2E] then some place.dropLast
  else if nameLimit < c.length then none
  else some (place ++ [c])

/-- Goes through components one after the other. -/
def followAll (d : Disk) : Path → List Bytes → Option Path
  | place, [] => some place
  | place, c :: cs => (d.follow place c).bind fun p => d.followAll p cs

/-- The place of a byte string on the disk; everything before the last component exists and is a
directory. -/
def resolve? (d : Disk) (path : Bytes) : Option Path :=
  if path = [] ∨ pathLimit ≤ path.length then none
  else d.followAll (if path.head? = some slash then [] else d.working) (components path)

/-- What becomes of an attempt to create a file. -/
inductive Creation
  | created (p : Path) (d : Disk)
  /-- There is an entry of that name. -/
  | occupied
  /-- The directory is missing or none, or the name is not possible. -/
  | failed
  deriving DecidableEq, Repr

/-- Creates an empty file where there is no entry. -/
def create (d : Disk) (path : Bytes) : Creation :=
  match d.resolve? path with
  | none => .failed
  | some p =>
    match d.entry? p with
    | some _ => .occupied
    | none => .created p { d with entries := (p, .file []) :: d.entries }

/-- Adds bytes at the end of a file. -/
def append (d : Disk) (p : Path) (bytes : Bytes) : Disk :=
  { d with entries := d.entries.map fun e =>
      match e with
      | (q, .file content) => (q, .file (if q = p then content ++ bytes else content))
      | (q, .directory) => (q, .directory) }

/-- The directories on the way to a path, from the root on. -/
def ancestors (p : Path) : List Path := (List.range p.length).map p.take

/-- Puts an entry at a path where there is none, and makes the directories on the way. -/
def put (d : Disk) (p : Path) (e : Entry) : Disk :=
  let new := ((ancestors p).map fun q => (q, Entry.directory)) ++ [(p, e)]
  { d with entries := new.filter (fun x => (d.entry? x.1).isNone) ++ d.entries }

/-- The entries below a directory, with their paths from there. -/
def below (d : Disk) (p : Path) : List (Path × Entry) :=
  d.entries.filterMap fun (q, e) =>
    if p.isPrefixOf q ∧ q ≠ p then some (q.drop p.length, e) else none

end Disk
end VmHost
