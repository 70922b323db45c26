import VmHost.Proofs.Snapshot.Naming

/-!
# Where a snapshot goes

Three limits have to fit together for the path of a snapshot: that on the length of a directory, checked
before the slashes at its end are taken off; the digits of a time and of the number of an attempt; and
the room of the buffer. `Reaches` says what they come to.

* `reaches_of_create`: for every accepted directory the path of every attempt at any time fits, is read
  to its end, and leads to a file directly in that directory.
-/
namespace VmHost.Snapshot

open Disk (slash)

/-- The bytes of a path lead to a file of this name, directly in a directory. -/
structure Leads (dir name bytes : Bytes) : Prop where
  /-- One byte is zero, the last one. -/
  ended : bytes.count 0 = 1 ∧ bytes.getLast? = some 0
  /-- Up to there stand the directory without slashes that it ends with, a slash, and the name. -/
  text : ∃ a k, dir = a ++ List.replicate k slash ∧
    Target.untilZero bytes = a ++ slash :: name
  /-- The name is that of an entry. -/
  isName : Disk.IsName name
  /-- That is the place of the name in the directory, wherever the directory is. -/
  inside : ∀ d : Disk, d.resolve? (Target.untilZero bytes) = (d.directory? dir).map (· ++ [name])
  /-- A directory of nothing but slashes is the root. -/
  root : (∀ b ∈ dir, b = slash) → ∀ d : Disk, d.resolve? (Target.untilZero bytes) = some [name]
  /-- Other directories may have slashes at the end. -/
  trimmed : ∀ a k, a ≠ [] → dir = a ++ List.replicate k slash → ∀ d : Disk,
    d.resolve? (Target.untilZero bytes) = (d.directory? a).map (· ++ [name])

/-- The path for a time and an attempt fits into its buffer and leads into a directory. -/
structure Target.Reaches (t : Target) (dir : Bytes) (millis attempt : Nat) : Prop where
  /-- Whatever pieces the path is written in, the buffer takes all of them. -/
  fits : ∀ pieces : List Bytes, pieces.flatten = (t.pathPieces millis attempt).flatten →
    ((Buffer.empty pathRoom).writeAll pieces).1 = true ∧
      ((Buffer.empty pathRoom).writeAll pieces).2.bytes = pieces.flatten
  /-- So the path is written in full, -/
  whole : t.path millis attempt = (true, (t.pathPieces millis attempt).flatten)
  /-- and what the buffer holds then leads into the directory. -/
  leads : Leads dir (fileName millis attempt) (t.path millis attempt).2

variable {t : Target} {dir : Bytes} {frames : UInt64} {m k : Nat}

/-- The zero byte at the end of a path is the only one. -/
theorem Target.count_zero_path (ht : Fits t.dir) (m k : Nat) :
    (t.dir ++ slash :: fileName m k ++ [0]).count 0 = 1 := by
  have hd : t.dir.count 0 = 0 := List.count_eq_zero.mpr ht.2
  have hn : (fileName m k).count 0 = 0 := List.count_eq_zero.mpr (not_mem_fileName m k).1
  have hs : slash ≠ 0 := by decide
  simp [hd, hn, hs]

/-- A directory of nothing but slashes is the root, although nothing is left of its path. -/
theorem Target.resolve?_root (ht : Target.create dir frames = .ok t) (hm : m < 2 ^ 64)
    (hk : k < attempts) (hs : ∀ b ∈ dir, b = slash) (d : Disk) :
    d.resolve? (t.dir ++ slash :: fileName m k) = some [fileName m k] := by
  obtain ⟨hn, -, hf, -⟩ := Target.create_eq_ok_iff.mp ht
  have hd : dir = List.replicate dir.length slash := List.eq_replicate_iff.mpr ⟨rfl, hs⟩
  have hl : dir.length < Disk.pathLimit := Nat.lt_of_le_of_lt hf.1 (by decide)
  have h0 : d.directory? dir = some [] := by
    rw [hd]
    exact Disk.directory?_root (mt List.length_eq_zero_iff.mp hn) hl
  rw [Target.resolve?_path ht hm hk, h0]
  rfl

/-- The directory is the one before the slashes at its end. -/
theorem Target.resolve?_trimmed {a : Bytes} {j : Nat} (ht : Target.create dir frames = .ok t)
    (hm : m < 2 ^ 64) (hk : k < attempts) (ha : a ≠ []) (hd : dir = a ++ List.replicate j slash)
    (d : Disk) :
    d.resolve? (t.dir ++ slash :: fileName m k) = (d.directory? a).map (· ++ [fileName m k]) := by
  obtain ⟨-, -, hf, -⟩ := Target.create_eq_ok_iff.mp ht
  have hl : dir.length < Disk.pathLimit := Nat.lt_of_le_of_lt hf.1 (by decide)
  subst hd
  rw [Target.resolve?_path ht hm hk, Disk.directory?_slashes ha hl]

/-- The bytes of a path lead into the directory that was given. -/
theorem Target.leads_path (ht : Target.create dir frames = .ok t) (hm : m < 2 ^ 64)
    (hk : k < attempts) : Leads dir (fileName m k) (t.dir ++ slash :: fileName m k ++ [0]) := by
  have hf : Fits t.dir := Target.fits_of_create ht
  have hz := untilZero_path hf.2 m k
  exact {
    ended := ⟨count_zero_path hf m k, List.getLast?_concat ..⟩
    text := by
      obtain ⟨-, -, -, rfl⟩ := Target.create_eq_ok_iff.mp ht
      obtain ⟨j, hj⟩ := exists_slashes dir
      exact ⟨trimSlashes dir, j, hj, hz⟩
    isName := isName_fileName hm hk
    inside := fun d => by rw [hz, Target.resolve?_path ht hm hk]
    root := fun hs d => by rw [hz, Target.resolve?_root ht hm hk hs]
    trimmed := fun a j ha hd d => by rw [hz, Target.resolve?_trimmed ht hm hk ha hd] }

/-- The path is written in full. -/
theorem Target.path_whole (ht : Target.create dir frames = .ok t) (hm : m < 2 ^ 64)
    (hk : k < attempts) : t.path m k = (true, (t.pathPieces m k).flatten) := by
  rw [Target.path_eq (Target.fits_of_create ht).1 hm hk, Target.flatten_pathPieces]

/-- **Every path fits and leads into the directory that was given**, whatever time the clock shows and
however many names are taken. -/
theorem reaches_of_create (ht : Target.create dir frames = .ok t) (m : UInt64) (hk : k < attempts) :
    t.Reaches dir m.toNat k where
  fits pieces he := by
    have hl := Target.length_pathPieces_le (Target.fits_of_create ht).1 m.toNat_lt hk
    exact Buffer.writeAll_empty (he ▸ hl)
  whole := Target.path_whole ht m.toNat_lt hk
  leads := by
    rw [Target.path_whole ht m.toNat_lt hk, Target.flatten_pathPieces]
    exact Target.leads_path ht m.toNat_lt hk

/-- The last attempt at the last time, in a directory of two slashes. -/
theorem reaches_root : ∃ t, Target.create [slash, slash] 0 = .ok t ∧ 15 < attempts ∧
    t.Reaches [slash, slash] (UInt64.toNat 0xFFFFFFFFFFFFFFFF) 15 := by
  have ht : Target.create [slash, slash] 0 = .ok ⟨[], 1⟩ := by decide +kernel
  exact ⟨_, ht, by decide, reaches_of_create ht 0xFFFFFFFFFFFFFFFF (by decide)⟩

end VmHost.Snapshot
