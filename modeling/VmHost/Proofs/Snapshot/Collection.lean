import Mathlib.Data.Set.Card
import VmHost.Proofs.Run
import VmHost.Proofs.Snapshot.Naming
import VmHost.Snapshot.Write

/-!
# Snapshots gather in their directory

`Taken` says what becomes of a snapshot: a new file under the first free name, or nothing if all names
are taken or there is no such directory (`Occasion.taken`). An entry that exists is never touched
(`Taken.kept`).

`gathered_of_run` is about any number of snapshots of one target, with a clock that may stand still or
go back: there is one new file for each of them that was not skipped. A snapshot whose walk breaks off
leaves its file all the same (`take_broken`).
-/
namespace VmHost.Snapshot

/-! ## One snapshot -/

/-- What a snapshot is taken of, and when. -/
structure Occasion where
  now : Time
  view : Fault.View
  tid : Int
  memory : Memory

namespace Occasion

/-- The names of the files for the occasion. -/
def name (x : Occasion) (attempt : Nat) : Bytes := fileName x.now.millis attempt

/-- Takes the snapshot. -/
def take (x : Occasion) (t : Target) (d : Disk) : Written × Disk :=
  write t d x.now x.view x.tid x.memory

/-- The walk over the frames. -/
def walk (x : Occasion) (t : Target) : Walk := Snapshot.walk t x.view x.memory

end Occasion

/-- What becomes of a snapshot that goes to a directory. -/
inductive Taken (dir : Bytes) (t : Target) (d : Disk) (x : Occasion) : Written → Disk → Prop
  /-- There is a new file, under the first name that is free. -/
  | made {place : Path} {k : Nat} : d.directory? dir = some place → k < attempts →
      (∀ j < k, d.entry? (place ++ [x.name j]) ≠ none) → d.entry? (place ++ [x.name k]) = none →
      Taken dir t d x (if (x.walk t).broken then .broken else .written)
        (d.add (place ++ [x.name k]) (content x.view x.tid (x.walk t).returns))
  /-- All names are taken. -/
  | crowded {place : Path} : d.directory? dir = some place →
      (∀ k < attempts, d.entry? (place ++ [x.name k]) ≠ none) → Taken dir t d x .skipped d
  /-- There is no such directory. -/
  | homeless : d.directory? dir = none → Taken dir t d x .skipped d

variable {t : Target} {dir : Bytes} {frames : UInt64} {d d' d₀ : Disk} {x : Occasion} {place p : Path}
  {m : Nat} {w : Written}

namespace Target

theorem createFrom_none (ht : Target.create dir frames = .ok t) (hm : m < 2 ^ 64)
    (hd : d.directory? dir = none) {left a : Nat} (ha : a + left ≤ attempts) :
    t.createFrom d m left a = none := by
  cases left with
  | zero => rfl
  | succ left =>
    have hk : a < attempts := by omega
    have hf := fits_of_create ht
    rw [createFrom, path_eq hf.1 hm hk]
    simp only [untilZero_path hf.2]
    rw [Disk.create_failed (by rw [resolve?_path ht hm hk, hd]; rfl)]

/-- The names are tried one after the other until one is free. -/
theorem createFrom_eq (ht : Target.create dir frames = .ok t) (hm : m < 2 ^ 64)
    (hd : d.directory? dir = some place) {left a : Nat} (ha : a + left ≤ attempts) :
    t.createFrom d m left a =
      ((List.range' a left).find? fun k => (d.entry? (place ++ [fileName m k])).isNone).map fun k =>
        (place ++ [fileName m k], d.add (place ++ [fileName m k]) []) := by
  induction left generalizing a with
  | zero => rfl
  | succ left ih =>
    have hk : a < attempts := by omega
    have hf := fits_of_create ht
    have hp : d.resolve? (t.dir ++ Disk.slash :: fileName m a) = some (place ++ [fileName m a]) := by
      rw [resolve?_path ht hm hk, hd]
      rfl
    rw [createFrom, path_eq hf.1 hm hk, List.range'_succ, List.find?_cons]
    simp only [untilZero_path hf.2, Disk.create_eq hp]
    cases he : d.entry? (place ++ [fileName m a]) with
    | none => rfl
    | some e => exact ih (by omega)

end Target

theorem Occasion.taken (ht : Target.create dir frames = .ok t) (hm : x.now.millis < 2 ^ 64) :
    Taken dir t d x (x.take t d).1 (x.take t d).2 := by
  cases hd : d.directory? dir with
  | none =>
    have hc : t.createFile d x.now.millis = none := Target.createFrom_none ht hm hd (Nat.le_refl _)
    rw [take, write, hc]
    exact .homeless hd
  | some place =>
    have hc := Target.createFrom_eq ht hm hd (Nat.le_of_eq (Nat.zero_add attempts))
    rw [← Target.createFile, ← List.range_eq_range'] at hc
    cases hk : (List.range attempts).find? fun k =>
        (d.entry? (place ++ [fileName x.now.millis k])).isNone with
    | none =>
      rw [hk] at hc
      rw [take, write, hc]
      refine .crowded hd fun k hl he => ?_
      have hs := List.find?_eq_none.mp hk k (List.mem_range.mpr hl)
      exact hs (Option.isNone_iff_eq_none.mpr he)
    | some k =>
      rw [hk] at hc
      obtain ⟨hf, hr, hl⟩ := List.find?_range_eq_some.mp hk
      have hn := Option.isNone_iff_eq_none.mp hf
      rw [take, write, hc]
      simp only [Option.map_some]
      rw [Disk.append_add hn]
      refine .made hd (List.mem_range.mp hr) (fun j hj he => ?_) hn
      have hs := hl j hj
      rw [Bool.not_eq_true', Option.isNone_eq_false_iff] at hs
      exact Option.isSome_iff_ne_none.mp hs he

namespace Taken

/-- No entry is changed or removed. -/
theorem kept (h : Taken dir t d x w d') {e : Entry} (hp : d.entry? p = some e) :
    d'.entry? p = some e := by
  cases h with
  | made _ _ _ hn =>
    rw [Disk.entry?_add (by simp), if_neg, hp]
    rintro rfl
    cases hn.symm.trans hp
  | crowded | homeless => exact hp

end Taken

/-! ## One snapshot after the other -/

/-- The disk after a snapshot. -/
def Target.step (t : Target) (d : Disk) (x : Occasion) : Option Disk := some (x.take t d).2

/-- The places where there is an entry now and was none before. -/
def news (d₀ d : Disk) : Set Path := {p | d₀.entry? p = none ∧ d.entry? p ≠ none}

/-- How many snapshots of a run came to this end. -/
def ended (t : Target) (w : Written) (past : List (Machine.Moment Disk Occasion)) : Nat :=
  past.countP fun m => (m.label.take t m.before).1 = w

namespace Taken

/-- A snapshot that is not skipped is one more new file. -/
theorem encard_news (h : Taken dir t d x w d')
    (hk : ∀ p e, d₀.entry? p = some e → d.entry? p = some e) :
    (news d₀ d').encard = (news d₀ d).encard + if w = .skipped then 0 else 1 := by
  cases h with
  | crowded | homeless => simp
  | @made place k _ _ _ hn =>
    have h0 : d₀.entry? (place ++ [x.name k]) = none :=
      Option.eq_none_iff_forall_ne_some.mpr fun e he => by cases hn.symm.trans (hk _ e he)
    have hi : news d₀ (d.add (place ++ [x.name k]) (content x.view x.tid (x.walk t).returns)) =
        insert (place ++ [x.name k]) (news d₀ d) := by
      ext q
      rw [Set.mem_insert_iff, news, Set.mem_ofPred_eq, Disk.entry?_add (by simp)]
      by_cases e : q = place ++ [x.name k]
      · simp [e, h0]
      · simp [e, news]
    rw [hi, Set.encard_insert_of_notMem fun hm => hm.2 hn, if_neg (by split <;> nofun)]

/-- The new entries are files. -/
theorem file_of_new (h : Taken dir t d x w d') (hp : d.entry? p = none) {e : Entry}
    (he : d'.entry? p = some e) : ∃ content, e = .file content := by
  cases h with
  | made =>
    rw [Disk.entry?_add (by simp)] at he
    split at he
    · exact ⟨_, (Option.some.inj he).symm⟩
    · cases hp.symm.trans he
  | crowded | homeless => cases hp.symm.trans he

end Taken

/-- What a run of snapshots has done to the disk. -/
structure Gathered (dir : Bytes) (t : Target) (d₀ : Disk)
    (past : List (Machine.Moment Disk Occasion)) (d : Disk) : Prop where
  taken : ∀ m ∈ past, Taken dir t m.before m.label (m.label.take t m.before).1 m.after
  kept : ∀ m ∈ past, ∀ p e, m.before.entry? p = some e →
    m.after.entry? p = some e ∧ d.entry? p = some e
  initial : ∀ p e, d₀.entry? p = some e → d.entry? p = some e
  files : ∀ p e, d₀.entry? p = none → d.entry? p = some e → ∃ content, e = .file content
  /-- Every snapshot that was not skipped is a new file, -/
  count : (news d₀ d).encard = ended t .written past + ended t .broken past
  /-- and was written in full unless the walk broke off. -/
  whole : (news d₀ d).encard = ended t .written past ↔
    ∀ m ∈ past, (m.label.take t m.before).1 ≠ .broken
  /-- Different times and attempts have different names. -/
  distinct : ∀ m n k l, fileName m k = fileName n l → m = n ∧ k = l

variable {past : List (Machine.Moment Disk Occasion)}

theorem ended_eq_zero_iff : ended t w past = 0 ↔ ∀ m ∈ past, (m.label.take t m.before).1 ≠ w := by
  simp [ended, List.countP_eq_zero]

/-- A count of which a part is missing is not the whole count. -/
theorem whole_of_count {n : ℕ∞} (h : n = ended t .written past + ended t .broken past) :
    n = ended t .written past ↔ ∀ m ∈ past, (m.label.take t m.before).1 ≠ .broken := by
  rw [← ended_eq_zero_iff, h]
  norm_cast
  omega

namespace Gathered

theorem nil : Gathered dir t d₀ [] d₀ where
  taken := List.forall_mem_nil _
  kept := List.forall_mem_nil _
  initial _ _ := id
  files _ _ hn he := by cases hn.symm.trans he
  count := by simp [news, ended]
  whole := whole_of_count (by simp [news, ended])
  distinct _ _ _ _ := fileName_injective

theorem count_cons (h : Gathered dir t d₀ past d)
    (hx : Taken dir t d x (x.take t d).1 (x.take t d).2) :
    (news d₀ (x.take t d).2).encard =
      ended t .written (⟨d, x, (x.take t d).2⟩ :: past) +
        ended t .broken (⟨d, x, (x.take t d).2⟩ :: past) := by
  rw [hx.encard_news h.initial, h.count]
  simp only [ended, List.countP_cons]
  cases (x.take t d).1 <;> simp [add_assoc, add_left_comm, add_comm]

theorem cons (h : Gathered dir t d₀ past d) (hx : Taken dir t d x (x.take t d).1 (x.take t d).2) :
    Gathered dir t d₀ (⟨d, x, (x.take t d).2⟩ :: past) (x.take t d).2 where
  taken := List.forall_mem_cons.mpr ⟨hx, h.taken⟩
  kept := List.forall_mem_cons.mpr ⟨fun p e he => ⟨hx.kept he, hx.kept he⟩, fun m hm p e he =>
    ⟨(h.kept m hm p e he).1, hx.kept (h.kept m hm p e he).2⟩⟩
  initial p e he := hx.kept (h.initial p e he)
  files p e hn he := by
    cases hp : d.entry? p with
    | none => exact hx.file_of_new hp he
    | some e' =>
      cases he.symm.trans (hx.kept hp)
      exact h.files p e hn hp
  count := h.count_cons hx
  whole := whole_of_count (h.count_cons hx)
  distinct := h.distinct

end Gathered

/-- **Snapshots gather and never meet.** Whatever the disk was before and however the clock goes, a
snapshot that is not skipped is a new file under the first free name, and nothing else changes. -/
theorem gathered_of_run (ht : Target.create dir frames = .ok t) (h : Machine.Run t.step d₀ past d)
    (hm : ∀ m ∈ past, m.label.now.millis < 2 ^ 64) : Gathered dir t d₀ past d := by
  induction h with
  | start => exact .nil
  | step x _ hs ih =>
    obtain ⟨hx, hp⟩ := List.forall_mem_cons.mp hm
    cases hs
    exact (ih hp).cons (Occasion.taken ht hx)

/-! ### A walk that breaks off -/

/-- A disk with one directory, in which two names for one time are taken, one of them by a
directory. -/
def crowdedDisk : Disk where
  entries := [([[0x64], fileName 5000 0], .file []), ([[0x64], fileName 5000 2], .directory),
    ([[0x64]], .directory)]
  working := []

/-- A snapshot with this frame pointer at this second. -/
def occasionAt (secs : Nat) (frame : UInt64) : Occasion :=
  ⟨⟨secs, 0⟩, ⟨0, frame, 0, 0, 11, 0⟩, 1, .none⟩

/-- Two snapshots at one time fill the gaps, one is taken after the clock was set back, and one breaks
off. -/
theorem gathered_crowded : ∃ past d, Target.create [0x2F, 0x64, 0x2F] 2 = .ok ⟨[0x2F, 0x64], 2⟩ ∧
    Machine.Run (Target.step ⟨[0x2F, 0x64], 2⟩) crowdedDisk past d ∧
    (∀ m ∈ past, m.label.now.millis < 2 ^ 64) ∧ d.entry? [[0x64], fileName 5000 3] ≠ none ∧
    Gathered [0x2F, 0x64, 0x2F] ⟨[0x2F, 0x64], 2⟩ crowdedDisk past d := by
  have ht : Target.create [0x2F, 0x64, 0x2F] 2 = .ok ⟨[0x2F, 0x64], 2⟩ := by decide +kernel
  obtain ⟨past, d, h, hp⟩ := Machine.exists_run (Target.step ⟨[0x2F, 0x64], 2⟩) crowdedDisk
    (fun past d => past.all (fun m => m.label.now.millis < 2 ^ 64) ∧
      d.entry? [[0x64], fileName 5000 3] ≠ none)
    [occasionAt 5 0, occasionAt 5 0, occasionAt 4 0, occasionAt 6 0xFFFFFFFFFFFFFFF8]
    (by decide +kernel)
  simp only [List.all_eq_true, decide_eq_true_eq] at hp
  exact ⟨past, d, ht, h, hp.1, hp.2, gathered_of_run ht h hp.1⟩

/-- The last frame pointer of the address space breaks a snapshot off whose file has been made. -/
theorem take_broken :
    ((occasionAt 6 0xFFFFFFFFFFFFFFF8).take ⟨[0x2F, 0x64], 2⟩ crowdedDisk).1 = .broken ∧
      crowdedDisk.entry? [[0x64], fileName 6000 0] = none ∧
      Disk.entry? ((occasionAt 6 0xFFFFFFFFFFFFFFF8).take ⟨[0x2F, 0x64], 2⟩ crowdedDisk).2
        [[0x64], fileName 6000 0] ≠ none := by
  decide +kernel

end VmHost.Snapshot
