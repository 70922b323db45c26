import VmHost.Proofs.Snapshot.Place
import VmHost.Snapshot.Write

/-!
# Disks that differ in the content of files

What files contain does not matter for where a path leads, and so not for the names of snapshots. The
outline of a disk is the disk with its files empty; disks with the same outline are `Alike`.

* `Target.createFile_alike`: on disks that are alike a snapshot gets the same name.
* `write_alike`: they stay alike, whatever is written.
-/
namespace VmHost

/-- The entry without its content. -/
def Entry.outline : Entry → Entry
  | .file _ => .file []
  | .directory => .directory

namespace Disk

variable {d e : Disk} {p : Path}

/-- The disk with its files empty. -/
def outline (d : Disk) : Disk := { d with entries := d.entries.map fun x => (x.1, x.2.outline) }

/-- The disks differ in nothing but the content of files. -/
def Alike (d e : Disk) : Prop := d.outline = e.outline

theorem lookup_outline (entries : List (Path × Entry)) (p : Path) :
    (entries.map fun x => (x.1, x.2.outline)).lookup p = (entries.lookup p).map Entry.outline := by
  induction entries with
  | nil => rfl
  | cons x entries ih =>
    rw [List.map_cons, List.lookup_cons, List.lookup_cons, ih]
    cases p == x.1 <;> rfl

theorem entry?_outline (d : Disk) (p : Path) :
    Disk.entry? d.outline p = (d.entry? p).map Entry.outline := by
  rw [Disk.entry?, Disk.entry?]
  split
  · rfl
  · exact lookup_outline d.entries p

theorem isDirectory_outline (d : Disk) (p : Path) : d.outline.isDirectory p = d.isDirectory p := by
  rw [isDirectory, isDirectory, entry?_outline]
  rcases d.entry? p with _ | _ | _ <;> rfl

theorem followAll_outline (d : Disk) (p : Path) (cs : List Bytes) :
    d.outline.followAll p cs = d.followAll p cs := by
  induction cs generalizing p with
  | nil => rfl
  | cons c cs ih => simp only [followAll, follow, isDirectory_outline, ih]

theorem resolve?_outline (d : Disk) (path : Bytes) : d.outline.resolve? path = d.resolve? path := by
  rw [resolve?, followAll_outline]
  rfl

/-- What becomes of an attempt to create a file, on a disk with its files empty. -/
def Creation.outline : Creation → Creation
  | .created p d => .created p d.outline
  | .occupied => .occupied
  | .failed => .failed

theorem create_outline (d : Disk) (path : Bytes) : d.outline.create path = (d.create path).outline := by
  simp only [create, resolve?_outline, entry?_outline]
  cases d.resolve? path with
  | none => rfl
  | some p => cases hp : d.entry? p <;> simp [hp, Creation.outline, outline, Entry.outline]

theorem outline_append (d : Disk) (p : Path) (bytes : Bytes) : (d.append p bytes).outline = d.outline := by
  simp only [outline, append, List.map_map]
  congr 1
  refine List.map_congr_left fun x _ => ?_
  obtain ⟨q, content | -⟩ := x <;> rfl

end Disk

namespace Snapshot

variable {t : Target} {d e d' : Disk} {p : Path} {m : Nat}

theorem Target.createFrom_outline (t : Target) (d : Disk) (m left attempt : Nat) :
    t.createFrom d.outline m left attempt =
      (t.createFrom d m left attempt).map fun x => (x.1, x.2.outline) := by
  induction left generalizing attempt with
  | zero => rfl
  | succ left ih =>
    rcases hp : t.path m attempt with ⟨_ | _, bytes⟩ <;>
      simp only [createFrom, hp, Disk.create_outline]
    · rfl
    · cases d.create (untilZero bytes) with
      | created p d' => rfl
      | occupied => exact ih (attempt + 1)
      | failed => rfl

theorem Target.map_createFile (h : d.Alike e) :
    (t.createFile e m).map (fun x => (x.1, x.2.outline)) =
      (t.createFile d m).map fun x => (x.1, x.2.outline) := by
  rw [createFile, createFile, ← createFrom_outline, ← createFrom_outline, h]

theorem Target.createFile_alike (h : d.Alike e) (hc : t.createFile d m = some (p, d')) :
    ∃ e', t.createFile e m = some (p, e') ∧ d'.Alike e' := by
  have he := map_createFile (t := t) (m := m) h
  rw [hc] at he
  obtain ⟨⟨q, e'⟩, hq, hx⟩ := Option.map_eq_some_iff.mp he
  obtain ⟨rfl, ho⟩ := Prod.mk.inj hx
  exact ⟨e', hq, ho.symm⟩

theorem Target.createFile_none (h : d.Alike e) (hc : t.createFile d m = none) :
    t.createFile e m = none := by
  have he := map_createFile (t := t) (m := m) h
  rw [hc] at he
  exact Option.map_eq_none_iff.mp he

/-- What a snapshot comes to does not depend on the content of files. -/
theorem fst_write_alike (h : d.Alike e) (t : Target) (now : Time) (v : Fault.View) (tid : Int)
    (mem : Memory) : (write t d now v tid mem).1 = (write t e now v tid mem).1 := by
  cases hc : t.createFile d now.millis with
  | none => rw [write, write, hc, Target.createFile_none h hc]
  | some x =>
    obtain ⟨p, d'⟩ := x
    obtain ⟨e', he, -⟩ := Target.createFile_alike h hc
    rw [write, write, hc, he]

/-- Snapshots leave disks alike. -/
theorem write_alike (h : d.Alike e) (t : Target) (now : Time) (v w : Fault.View) (tid : Int)
    (mem : Memory) : (write t d now v tid mem).2.Alike (write t e now w tid mem).2 := by
  cases hc : t.createFile d now.millis with
  | none =>
    rw [write, write, hc, Target.createFile_none h hc]
    exact h
  | some x =>
    obtain ⟨p, d'⟩ := x
    obtain ⟨e', he, ha⟩ := Target.createFile_alike h hc
    rw [write, write, hc, he, Disk.Alike, Disk.outline_append, Disk.outline_append]
    exact ha

end Snapshot
end VmHost
