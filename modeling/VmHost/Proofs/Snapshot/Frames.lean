import Mathlib.Algebra.Ring.Nat
import Mathlib.Data.List.Chain
import VmHost.Proofs.Snapshot.Naming
import VmHost.Snapshot.Write

/-!
# The frames of a snapshot

Memory that has been destroyed may hold any frame pointers. `Frame.Stands` says what the walk asks of
a frame before it is written down, and `DeadEnd` where it stops. The one frame pointer that is neither
is the last one of the address space (`standing_or`).

* `run_trail`: the frames of a walk stand, each one is the caller of the one before and lies above it,
  and there is a reason why there are no more.
* `returns_take`: a walk of fewer frames is the beginning of a longer one.
* `run_broken_iff`: a walk breaks off exactly if it comes to the last frame pointer.
* `finishes_of_create`: so a snapshot whose file has been created is written to its end, with at most as
  many frames as were asked for, unless its walk comes there.
-/
namespace VmHost.Snapshot

/-- A frame: where it is, and the two words there. -/
structure Frame where
  pointer : UInt64
  /-- The frame pointer of the caller. -/
  caller : UInt64
  ret : UInt64

/-- The last frame pointer of the address space. The word above it has no address. -/
def lastPointer : UInt64 := 0xFFFFFFFFFFFFFFF8

/-- The frame is one that memory holds, above a stack pointer. -/
structure Frame.Stands (mem : Memory) (stack : UInt64) (f : Frame) : Prop where
  ne_zero : f.pointer ≠ 0
  aligned : 8 ∣ f.pointer.toNat
  above : stack ≤ f.pointer
  ne_last : f.pointer ≠ lastPointer
  caller : mem.word? f.pointer = some f.caller
  ret : mem.word? (f.pointer + wordSize) = some f.ret
  ret_ne_zero : f.ret ≠ 0

/-- There is nothing to follow at a frame pointer. -/
inductive DeadEnd (mem : Memory) (stack : UInt64) (fp : UInt64) : Prop
  | zero : fp = 0 → DeadEnd mem stack fp
  | unaligned : ¬ 8 ∣ fp.toNat → DeadEnd mem stack fp
  | below : fp < stack → DeadEnd mem stack fp
  | unreadable : fp ≠ lastPointer → mem.word? fp = none → DeadEnd mem stack fp
  | unreadableReturn : fp ≠ lastPointer → mem.word? (fp + wordSize) = none → DeadEnd mem stack fp
  | noReturn : fp ≠ lastPointer → mem.word? (fp + wordSize) = some 0 → DeadEnd mem stack fp

/-- A walk of at most so many frames looks at a frame pointer. -/
inductive Meets (mem : Memory) (stack : UInt64) : Nat → UInt64 → UInt64 → Prop
  | here (limit : Nat) (fp : UInt64) : Meets mem stack (limit + 1) fp fp
  | above {limit : Nat} {f : Frame} {fp : UInt64} : f.Stands mem stack → f.pointer < f.caller →
      Meets mem stack limit f.caller fp → Meets mem stack (limit + 1) f.pointer fp

variable {mem : Memory} {stack fp : UInt64} {limit m n : Nat} {f : Frame}

/-! ## One frame -/

theorem isPlausible_iff :
    Walk.isPlausible stack fp = true ↔ fp ≠ 0 ∧ 8 ∣ fp.toNat ∧ stack ≤ fp := by
  have hd : fp % wordSize = 0 ↔ 8 ∣ fp.toNat := by
    rw [← UInt64.toNat_inj, UInt64.toNat_mod, Nat.dvd_iff_mod_eq_zero]
    rfl
  simp only [Walk.isPlausible, Bool.and_eq_true, decide_eq_true_eq, beq_iff_eq, hd, and_assoc]

theorem size_le_iff (h : 8 ∣ fp.toNat) :
    UInt64.size ≤ fp.toNat + wordSize.toNat ↔ fp = lastPointer := by
  have hl := fp.toNat_lt
  have hw : wordSize.toNat = 8 := rfl
  have ht : lastPointer.toNat = 2 ^ 64 - 8 := rfl
  have hs : UInt64.size = 2 ^ 64 := rfl
  rw [← UInt64.toNat_inj, hw, ht, hs]
  omega

/-- A frame pointer is a dead end, that of a frame, or the last one. -/
theorem standing_or (mem : Memory) (stack fp : UInt64) :
    DeadEnd mem stack fp ∨ (∃ f : Frame, f.Stands mem stack ∧ f.pointer = fp) ∨
      (stack ≤ fp ∧ fp = lastPointer) := by
  by_cases hz : fp = 0
  · exact .inl (.zero hz)
  by_cases ha : 8 ∣ fp.toNat
  · by_cases hs : stack ≤ fp
    · by_cases hl : fp = lastPointer
      · exact .inr (.inr ⟨hs, hl⟩)
      · cases hc : mem.word? fp with
        | none => exact .inl (.unreadable hl hc)
        | some caller =>
          cases hr : mem.word? (fp + wordSize) with
          | none => exact .inl (.unreadableReturn hl hr)
          | some ret =>
            by_cases hr0 : ret = 0
            · exact .inl (.noReturn hl (hr0 ▸ hr))
            · exact .inr (.inl ⟨⟨fp, caller, ret⟩, ⟨hz, ha, hs, hl, hc, hr, hr0⟩, rfl⟩)
    · exact .inl (.below (UInt64.not_le.mp hs))
  · exact .inl (.unaligned ha)

theorem Frame.Stands.run (h : f.Stands mem stack) (limit : Nat) :
    Walk.run mem stack (limit + 1) f.pointer =
      (if f.caller ≤ f.pointer then Walk.stop else Walk.run mem stack limit f.caller).found f.ret := by
  have hp : Walk.isPlausible stack f.pointer = true := isPlausible_iff.mpr ⟨h.ne_zero, h.aligned, h.above⟩
  have hl : ¬ UInt64.size ≤ f.pointer.toNat + wordSize.toNat :=
    fun hs => h.ne_last ((size_le_iff h.aligned).mp hs)
  simp only [Walk.run, hp, hl, h.caller, h.ret, h.ret_ne_zero, Bool.not_true, Bool.false_eq_true,
    ↓reduceIte]

theorem DeadEnd.run (h : DeadEnd mem stack fp) (limit : Nat) :
    Walk.run mem stack limit fp = .stop := by
  cases limit with
  | zero => rfl
  | succ limit =>
    rw [Walk.run]
    by_cases hp : Walk.isPlausible stack fp = true
    · obtain ⟨hz, ha, hs⟩ := isPlausible_iff.mp hp
      simp only [hp, Bool.not_true, Bool.false_eq_true, ↓reduceIte, size_le_iff ha]
      cases h with
      | zero h => exact absurd h hz
      | unaligned h => exact absurd ha h
      | below h => exact absurd hs (UInt64.not_le.mpr h)
      | unreadable hl h => simp only [hl, h, ↓reduceIte]
      | unreadableReturn hl h =>
        simp only [hl, h, ↓reduceIte]
        cases mem.word? fp <;> rfl
      | noReturn hl h =>
        simp only [hl, h, ↓reduceIte]
        cases mem.word? fp <;> rfl
    · simp only [hp, Bool.not_false, ↓reduceIte]

theorem run_last (h : stack ≤ lastPointer) (limit : Nat) :
    Walk.run mem stack (limit + 1) lastPointer = .breakOff := by
  have hp : Walk.isPlausible stack lastPointer = true :=
    isPlausible_iff.mpr ⟨by decide, by decide, h⟩
  have hl : UInt64.size ≤ lastPointer.toNat + wordSize.toNat := (size_le_iff (by decide)).mpr rfl
  simp only [Walk.run, hp, hl, Bool.not_true, Bool.false_eq_true, ↓reduceIte]

/-! ## Whole walks -/

/-- Frames from a frame pointer on, each one the caller of the one before. -/
structure Trail (mem : Memory) (stack start : UInt64) (fs : List Frame) : Prop where
  stands : ∀ f ∈ fs, f.Stands mem stack
  starts : ∀ f, fs.head? = some f → f.pointer = start
  linked : fs.IsChain fun f g => g.pointer = f.caller ∧ f.pointer < g.pointer

/-- The frame pointer after some frames. -/
def following (start : UInt64) (fs : List Frame) : UInt64 :=
  (fs.getLast?.map (·.caller)).getD start

/-- Why a walk has no more frames than these. -/
inductive Ends (mem : Memory) (stack : UInt64) (limit : Nat) (start : UInt64) (fs : List Frame) : Prop
  /-- They are as many as there may be. -/
  | full : fs.length = limit → Ends mem stack limit start fs
  /-- The caller of the last one does not lie above it. -/
  | falls {f : Frame} : fs.getLast? = some f → f.caller ≤ f.pointer → Ends mem stack limit start fs
  | dead : DeadEnd mem stack (following start fs) → Ends mem stack limit start fs

theorem Trail.nil (mem : Memory) (stack start : UInt64) : Trail mem stack start [] :=
  ⟨nofun, nofun, .nil⟩

theorem Trail.single (h : f.Stands mem stack) : Trail mem stack f.pointer [f] :=
  ⟨List.forall_mem_singleton.mpr h, fun _ he => Option.some.inj he ▸ rfl, .singleton f⟩

theorem Trail.cons {fs : List Frame} (hf : f.Stands mem stack) (hc : f.pointer < f.caller)
    (h : Trail mem stack f.caller fs) : Trail mem stack f.pointer (f :: fs) where
  stands := List.forall_mem_cons.mpr ⟨hf, h.stands⟩
  starts _ he := Option.some.inj he ▸ rfl
  linked := by
    refine List.isChain_cons.mpr ⟨fun g hg => ?_, h.linked⟩
    have hp := h.starts g hg
    exact ⟨hp, hp ▸ hc⟩

theorem Ends.cons {fs : List Frame} (h : Ends mem stack limit f.caller fs) :
    Ends mem stack (limit + 1) f.pointer (f :: fs) := by
  cases fs with
  | nil =>
    cases h with
    | full h => exact .full (congrArg (· + 1) h)
    | falls h => cases h
    | dead h => exact .dead h
  | cons g fs =>
    cases h with
    | full h => exact .full (congrArg (· + 1) h)
    | falls h hf => exact .falls (List.getLast?_cons_cons.trans h) hf
    | dead h =>
      refine .dead ?_
      rwa [following, List.getLast?_cons_cons]

/-- **The frames of a walk.** -/
theorem run_trail (mem : Memory) (stack fp : UInt64) (limit : Nat) :
    ∃ fs, Trail mem stack fp fs ∧ fs.length ≤ limit ∧
      (Walk.run mem stack limit fp).returns = fs.map (·.ret) ∧
      ((Walk.run mem stack limit fp).broken = false → Ends mem stack limit fp fs) := by
  induction limit generalizing fp with
  | zero => exact ⟨[], .nil .., Nat.le_refl _, rfl, fun _ => .full rfl⟩
  | succ limit ih =>
    rcases standing_or mem stack fp with hd | ⟨f, hf, rfl⟩ | ⟨hs, rfl⟩
    · exact ⟨[], .nil .., Nat.zero_le _, by rw [hd.run]; rfl, fun _ => .dead hd⟩
    · rw [hf.run]
      by_cases hc : f.caller ≤ f.pointer
      · rw [if_pos hc]
        exact ⟨[f], .single hf, Nat.succ_le_succ (Nat.zero_le _), rfl, fun _ => .falls rfl hc⟩
      · obtain ⟨fs, ht, hl, hr, he⟩ := ih f.caller
        rw [if_neg hc]
        exact ⟨f :: fs, ht.cons hf (UInt64.not_le.mp hc), Nat.succ_le_succ hl,
          congrArg (f.ret :: ·) hr, fun hb => (he hb).cons⟩
    · rw [run_last hs]
      exact ⟨[], .nil .., Nat.zero_le _, rfl, nofun⟩

/-- A walk of fewer frames finds the first ones. -/
theorem returns_take (mem : Memory) (stack fp : UInt64) (h : m ≤ n) :
    (Walk.run mem stack m fp).returns = (Walk.run mem stack n fp).returns.take m := by
  induction m generalizing fp n with
  | zero => rfl
  | succ m ih =>
    obtain ⟨n, rfl⟩ : ∃ k, n = k + 1 := ⟨n - 1, by omega⟩
    rcases standing_or mem stack fp with hd | ⟨f, hf, rfl⟩ | ⟨hs, rfl⟩
    · rw [hd.run, hd.run]
      rfl
    · rw [hf.run, hf.run]
      refine congrArg (f.ret :: ·) ?_
      split
      · exact List.take_nil.symm
      · exact ih f.caller (Nat.le_of_succ_le_succ h)
    · rw [run_last hs, run_last hs]
      rfl

/-- **Where a walk breaks off.** -/
theorem run_broken_iff (mem : Memory) (stack fp : UInt64) (limit : Nat) :
    (Walk.run mem stack limit fp).broken = true ↔
      stack ≤ lastPointer ∧ Meets mem stack limit fp lastPointer := by
  constructor
  · intro h
    induction limit generalizing fp with
    | zero => cases h
    | succ limit ih =>
      rcases standing_or mem stack fp with hd | ⟨f, hf, rfl⟩ | ⟨hs, rfl⟩
      · rw [hd.run] at h
        cases h
      · rw [hf.run] at h
        by_cases hc : f.caller ≤ f.pointer
        · rw [if_pos hc] at h
          cases h
        · rw [if_neg hc] at h
          obtain ⟨hs, hm⟩ := ih f.caller h
          exact ⟨hs, .above hf (UInt64.not_le.mp hc) hm⟩
      · exact ⟨hs, .here limit _⟩
  · rintro ⟨hs, hm⟩
    generalize hl : lastPointer = last at hm
    induction hm with
    | here limit fp =>
      rw [← hl, run_last hs]
      rfl
    | above hf hc _ ih =>
      rw [hf.run, if_neg (UInt64.not_le.mpr hc)]
      exact ih hl

/-! ## The file of a walk -/

variable {t : Target} {d d' : Disk} {p : Path} {dir : Bytes} {frames : UInt64}

theorem Target.createFrom_eq_some {left attempt : Nat}
    (h : t.createFrom d m left attempt = some (p, d')) : d.entry? p = none ∧ d' = d.add p [] := by
  induction left generalizing attempt with
  | zero => cases h
  | succ left ih =>
    rw [Target.createFrom] at h
    split at h
    · cases h
    · split at h
      · rename_i hc
        cases h
        exact Disk.of_create hc
      · exact ih h
      · cases h

/-- What a snapshot does once its file has been created. -/
theorem write_eq {now : Time} (hc : t.createFile d now.millis = some (p, d')) (v : Fault.View)
    (tid : Int) (mem : Memory) : write t d now v tid mem =
      (if (walk t v mem).broken then .broken else .written,
        d.add p (content v tid (walk t v mem).returns)) := by
  obtain ⟨hn, rfl⟩ := Target.createFrom_eq_some hc
  rw [write, hc]
  simp only [Disk.append_add hn, List.nil_append]

theorem entry?_write {now : Time} (hc : t.createFile d now.millis = some (p, d')) (v : Fault.View)
    (tid : Int) (mem : Memory) : Disk.entry? (write t d now v tid mem).2 p =
      some (.file (content v tid (walk t v mem).returns)) := by
  obtain ⟨hp, -⟩ := Disk.entry?_eq_none_iff.mp (Target.createFrom_eq_some hc).1
  rw [write_eq hc, Disk.entry?_add hp, if_pos rfl]

theorem Target.one_le_maxFrames (ht : Target.create dir frames = .ok t) : 1 ≤ t.maxFrames.toNat := by
  obtain ⟨-, -, -, rfl⟩ := Target.create_eq_ok_iff.mp ht
  rw [show max frames 1 = if frames ≤ 1 then 1 else frames from rfl]
  split
  · exact Nat.le_refl 1
  · rename_i hf
    exact UInt64.le_iff_toNat_le.mp (UInt64.le_of_lt (UInt64.not_le.mp hf))

/-- How a snapshot ends whose file has been created. -/
structure Finishes (t : Target) (d : Disk) (p : Path) (now : Time) (v : Fault.View) (tid : Int)
    (mem : Memory) : Prop where
  /-- It is written to its end or breaks off, -/
  ends : (write t d now v tid mem).1 = .written ∨ (write t d now v tid mem).1 = .broken
  /-- which it does exactly if its walk comes to the last frame pointer. -/
  breaks : (write t d now v tid mem).1 = .broken ↔
    v.stack ≤ lastPointer ∧ Meets mem v.stack (t.maxFrames.toNat - 1) v.frame lastPointer
  /-- Either way the file has the lines up to there, -/
  file : Disk.entry? (write t d now v tid mem).2 p =
    some (.file (content v tid (walk t v mem).returns))
  /-- and no more frames than were asked for. -/
  bounded : (v.ip :: (walk t v mem).returns).length ≤ t.maxFrames.toNat

/-- **Snapshots of destroyed stacks.** Whatever memory holds, a snapshot whose file has been created
is written to its end, unless its walk comes to the last frame pointer of the address space. -/
theorem finishes_of_create {now : Time} (ht : Target.create dir frames = .ok t)
    (hc : t.createFile d now.millis = some (p, d')) (v : Fault.View) (tid : Int) (mem : Memory) :
    Finishes t d p now v tid mem where
  ends := by
    rw [write_eq hc]
    cases (walk t v mem).broken <;> simp
  breaks := by
    rw [← run_broken_iff, write_eq hc]
    change _ ↔ (walk t v mem).broken = true
    cases (walk t v mem).broken <;> simp
  file := entry?_write hc v tid mem
  bounded := by
    obtain ⟨fs, -, hl, hr, -⟩ := run_trail mem v.stack v.frame (t.maxFrames.toNat - 1)
    have hm := Target.one_le_maxFrames ht
    rw [walk, hr, List.length_cons, List.length_map]
    omega

/-! ### Sound and corrupt stacks -/

/-- A disk with one directory. -/
def roomyDisk : Disk := ⟨[([[0x64]], .directory)], []⟩

/-- A fault whose frame pointer is the first address of memory. -/
def faultAtBase : Fault.View := ⟨0x401000, 0x1000000000, 0x1000000000, 0, 11, 16⟩

/-- Memory with two frames, the second one without a caller. -/
def soundMemory : Memory :=
  .region 0x1000000000 8192 [(0, 0x1000000020), (1, 0x1111), (4, 0), (5, 0x2222)]

/-- Memory with a frame whose saved frame pointer has been overwritten. -/
def corruptMemory : Memory := .region 0x1000000000 8192 [(0, 0xFFFFFFFFFFFFFFF8), (1, 0x1111)]

theorem finishes_sound : Target.create [0x2F, 0x64] 3 = .ok ⟨[0x2F, 0x64], 3⟩ ∧
    Target.createFile ⟨[0x2F, 0x64], 3⟩ roomyDisk (Time.millis ⟨5, 0⟩) =
      some ([[0x64], fileName 5000 0], roomyDisk.add [[0x64], fileName 5000 0] []) ∧
    Finishes ⟨[0x2F, 0x64], 3⟩ roomyDisk [[0x64], fileName 5000 0] ⟨5, 0⟩ faultAtBase 1 soundMemory := by
  have ht : Target.create [0x2F, 0x64] 3 = .ok ⟨[0x2F, 0x64], 3⟩ := by decide +kernel
  have hc : Target.createFile ⟨[0x2F, 0x64], 3⟩ roomyDisk (Time.millis ⟨5, 0⟩) =
      some ([[0x64], fileName 5000 0], roomyDisk.add [[0x64], fileName 5000 0] []) := by decide +kernel
  exact ⟨ht, hc, finishes_of_create ht hc faultAtBase 1 soundMemory⟩

/-- A corrupt chain of frames breaks a snapshot off, after the file has been created. -/
theorem write_corrupt :
    Target.create [0x2F, 0x64] 3 = .ok ⟨[0x2F, 0x64], 3⟩ ∧
    (Target.createFile ⟨[0x2F, 0x64], 3⟩ roomyDisk (Time.millis ⟨5, 0⟩)).isSome = true ∧
    (write ⟨[0x2F, 0x64], 3⟩ roomyDisk ⟨5, 0⟩ faultAtBase 1 corruptMemory).1 = .broken := by
  decide +kernel

end VmHost.Snapshot
