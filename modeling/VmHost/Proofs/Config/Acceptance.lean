import VmHost.Platform.Ending
import VmHost.Proofs.Fault.Custody
import VmHost.Proofs.Snapshot.Naming

/-!
# What becomes of a configuration that was accepted

A configuration is checked before it is put into force, but the inspector that is made from it and the
directory that snapshots go to are checked once more, by rules of their own. These ask for more: the
number has to be that of a signal, and the directory has to leave room for the names of files and to
be free of zero bytes.

* `validate_eq_ok_iff`: the rules of a configuration, as a proposition.
* `usableSignal_eq_ok_iff`: the rules of inspectors; `Target.create_eq_ok_iff` has those of
  directories.
* `enforced_of_validate`: an accepted configuration is put into force exactly when its number is that
  of a signal; its directory is taken for snapshots exactly when it fits.
-/
namespace VmHost

variable {c : Config} {dir : Bytes} {frames : UInt64}

/-! ## The rules of a configuration -/

namespace Config

/-- Every rule of a configuration holds. -/
structure Admissible (c : Config) : Prop where
  stack : c.stackSize = 0 ∨ minStackSize ≤ c.stackSize
  positive : 0 < c.inspectSignal
  usable : ∀ s ∈ Signal.unusable, (s.number : Int) ≠ c.inspectSignal
  timeout : c.inspectTimeout.isZero = false
  frames : 1 ≤ c.maxFrames ∧ c.maxFrames ≤ frameLimit
  dumpDir : ∀ dir, c.dumpDir = some dir → dir ≠ [] ∧ Text.isUtf8 dir = true

theorem validate_eq_ok_iff_rules :
    c.validate = .ok () ↔ ∀ r ∈ c.rules, r.2 = false := by
  have hf : c.rules.find? (·.2) = none ↔ ∀ r ∈ c.rules, r.2 = false := by simp
  rw [← hf, validate, problem?]
  cases c.rules.find? (·.2) <;> simp

/-- The rules are tested as they are meant. -/
theorem validate_eq_ok_iff : c.validate = .ok () ↔ c.Admissible := by
  have hframes : (c.maxFrames == 0 || decide (frameLimit < c.maxFrames)) = false ↔
      1 ≤ c.maxFrames ∧ c.maxFrames ≤ frameLimit := by
    simp only [Bool.or_eq_false_iff, beq_eq_false_iff_ne, decide_eq_false_iff_not, UInt64.not_lt,
      UInt64.le_iff_toNat_le, ne_eq, ← UInt64.toNat_inj, UInt64.toNat_one, UInt64.toNat_zero]
    omega
  have hdir : (c.dumpDir.any fun dir => dir.isEmpty || !Text.isUtf8 dir) = false ↔
      ∀ dir, c.dumpDir = some dir → dir ≠ [] ∧ Text.isUtf8 dir = true := by
    cases c.dumpDir <;> simp
  have hstack : (decide (c.stackSize ≠ 0) && decide (c.stackSize < minStackSize)) = false ↔
      c.stackSize = 0 ∨ minStackSize ≤ c.stackSize := by
    simp only [Bool.and_eq_false_iff, decide_eq_false_iff_not, not_not, UInt64.not_lt]
  simp only [validate_eq_ok_iff_rules, rules, List.forall_mem_cons, List.not_mem_nil, hstack, hframes,
    hdir]
  constructor
  · rintro ⟨h1, h2, h3, h4, h5, h6, -⟩
    exact ⟨h1, by simpa using h2, by simpa using h3, h4, h5, h6⟩
  · rintro ⟨h1, h2, h3, h4, h5, h6⟩
    exact ⟨h1, by simpa using h2, by simpa using h3, h4, h5, h6, nofun⟩

end Config

/-! ## The rules of inspectors -/

namespace Inspect

/-- The refusal of a number that no signal has. -/
def unknown : Error := .invalidArgument "unknown signal number"

theorem ofNumber?_eq_some_iff {n : Int} {s : Signal} :
    Signal.ofNumber? n = some s ↔ (s.number : Int) = n := by
  obtain ⟨m, hm⟩ := s
  simp only [Signal.ofNumber?]
  split <;> simp <;> omega

theorem usableSignal_eq_ok_iff {n : Int} {s : Signal} :
    usableSignal n = .ok s ↔ (s.number : Int) = n ∧ s ∉ Signal.unusable := by
  rw [← ofNumber?_eq_some_iff, usableSignal, Signal.parse]
  cases Signal.ofNumber? n with
  | none => simp
  | some q =>
    by_cases hu : q ∈ Signal.unusable
    · have : ¬ (q = s ∧ s ∉ Signal.unusable) := fun h => h.2 (h.1 ▸ hu)
      simpa [Signal.isUsable, hu] using this
    · have : q = s ↔ q = s ∧ s ∉ Signal.unusable := ⟨fun h => ⟨h, h ▸ hu⟩, (·.1)⟩
      simpa [Signal.isUsable, hu] using this

theorem usableSignal_of_lt {n : Int} (h : 31 < n) : usableSignal n = .error unknown := by
  have hn : ¬ (1 ≤ n.toNat ∧ n.toNat ≤ 31) := by omega
  simp only [usableSignal, Signal.parse, Signal.ofNumber?, dif_neg hn]
  rfl

end Inspect

/-! ## Putting a configuration into force -/

open Snapshot Fault

namespace Config

/-- The directory for snapshots fits, if there is one. -/
def DumpDirFits (c : Config) : Prop := ∀ dir, c.dumpDir = some dir → Fits dir

/-- What becomes of a configuration whose rules hold. -/
structure Enforced (c : Config) : Prop where
  /-- An inspector is made from it if the number is that of a signal, -/
  inspector : ∀ h, (∃ r, Inspect.Inspector.create h c.inspectSignal c.inspectTimeout = .ok r) ↔
    c.inspectSignal ≤ 31
  /-- and so is a platform. -/
  platform : ∀ h, (∃ p, (Platform.create h c).1 = .ok p) ↔ c.inspectSignal ≤ 31
  refused : ∀ h, 31 < c.inspectSignal → (Platform.create h c).1 = .error Inspect.unknown
  /-- Its directory is taken for snapshots if it fits, with the same number of frames. -/
  target : ∀ dir t, c.dumpDir = some dir →
    (Target.create dir c.maxFrames = .ok t ↔ Fits dir ∧ t = ⟨trimSlashes dir, c.maxFrames⟩)
  misfit : ∀ dir, c.dumpDir = some dir → ¬ Fits dir →
    Target.create dir c.maxFrames = .error misfit
  /-- So it is when a handler is installed and nothing is registered, -/
  install : ∀ s o number handler, Resting s → s.active = none → ∃ answer t,
    s.call o (.install number handler c.dumpDir c.maxFrames) = (some answer, t) ∧
      (answer = .done ↔ c.DumpDirFits) ∧ (¬ c.DumpDirFits → answer = .failed Snapshot.misfit)
  /-- and when the platform aborts. -/
  dumps : ∀ (p : Platform) h scene dir, p.config = c → c.dumpDir = some dir → Fits dir →
    p.abort h scene = (h.log .error "aborting",
      (write ⟨trimSlashes dir, c.maxFrames⟩ scene.disk scene.time (Platform.abortView scene.registers)
        scene.tid scene.memory).2, .signal .abort)
  skips : ∀ (p : Platform) h scene dir, p.config = c → c.dumpDir = some dir → ¬ Fits dir →
    p.abort h scene = ((h.log .error "aborting").log .warn ("no snapshot: " ++ Snapshot.misfit.message),
      scene.disk, .signal .abort)

namespace Admissible

/-- The number of an accepted configuration can only fail to be that of a signal. -/
theorem usableSignal_iff (h : c.Admissible) :
    (∃ s, Inspect.usableSignal c.inspectSignal = .ok s) ↔ c.inspectSignal ≤ 31 := by
  simp only [Inspect.usableSignal_eq_ok_iff]
  constructor
  · rintro ⟨s, hs, -⟩
    have := s.named
    omega
  · intro hl
    have := h.positive
    refine ⟨⟨c.inspectSignal.toNat, by omega⟩, by simp; omega, fun hu => ?_⟩
    exact h.usable _ hu (by simp; omega)

/-- The frames of an accepted configuration are what it says. -/
theorem max_frames (h : c.Admissible) : max c.maxFrames 1 = c.maxFrames := by
  rw [show max c.maxFrames 1 = if c.maxFrames ≤ 1 then 1 else c.maxFrames from rfl]
  split
  · rename_i hl
    exact UInt64.le_antisymm h.frames.1 hl
  · rfl

theorem create_eq_ok_iff (h : c.Admissible) (hd : c.dumpDir = some dir) {t : Target} :
    Target.create dir c.maxFrames = .ok t ↔ Fits dir ∧ t = ⟨trimSlashes dir, c.maxFrames⟩ := by
  obtain ⟨hn, hu⟩ := h.dumpDir dir hd
  simp only [Target.create_eq_ok_iff, hn, hu, h.max_frames, ne_eq, not_false_eq_true, true_and]

theorem create_misfit (h : c.Admissible) (hd : c.dumpDir = some dir) (hf : ¬ Fits dir) :
    Target.create dir c.maxFrames = .error misfit :=
  Target.create_misfit (h.dumpDir dir hd).1 (h.dumpDir dir hd).2 hf

theorem accepts_iff (h : c.Admissible) (number : UInt64) :
    (Interceptor.mk number c.maxFrames).Accepts c.dumpDir ↔ c.DumpDirFits := by
  refine forall₂_congr fun dir hd => ?_
  simp only [h.create_eq_ok_iff hd, exists_and_left, exists_eq, and_true]

end Admissible

/-- The answer to an installation, as far as it hangs on the directory. -/
theorem Admissible.installs (h : c.Admissible) {s : State} {o : OsThread} {number : UInt64}
    {handler : Handler} (hr : Resting s) (ha : s.active = none) : ∃ answer t,
    s.call o (.install number handler c.dumpDir c.maxFrames) = (some answer, t) ∧
      (answer = .done ↔ c.DumpDirFits) ∧ (¬ c.DumpDirFits → answer = .failed Snapshot.misfit) := by
  obtain ⟨answer, t, hc, hi⟩ : ∃ answer t,
      s.call o (.install number handler c.dumpDir c.maxFrames) = (some answer, t) ∧
        Installs s ⟨number, c.maxFrames⟩ c.dumpDir answer t :=
    Installs.call (i := ⟨number, c.maxFrames⟩) hr
  refine ⟨answer, t, hc, ?_, fun hn => ?_⟩
  · rw [hi.done_iff, h.accepts_iff]
    exact and_iff_right ha
  · obtain ⟨dir, hd, hf⟩ : ∃ dir, c.dumpDir = some dir ∧ ¬ Fits dir := by
      simpa [DumpDirFits] using hn
    exact hi.rejected ha dir _ hd (h.create_misfit hd hf)

/-- **An accepted configuration can be put into force exactly when its number is that of a signal**,
and its directory is taken for snapshots exactly when it fits. -/
theorem enforced_of_validate (h : c.validate = .ok ()) : c.Enforced := by
  have ha := validate_eq_ok_iff.mp h
  have hi (host : Host) : (∃ r, Inspect.Inspector.create host c.inspectSignal c.inspectTimeout = .ok r) ↔
      c.inspectSignal ≤ 31 := by
    rw [← ha.usableSignal_iff, Inspect.Inspector.create]
    cases Inspect.usableSignal c.inspectSignal <;> simp
  refine ⟨hi, fun host => ?_, fun host hl => ?_, fun dir t hd => ha.create_eq_ok_iff hd,
    fun dir => ha.create_misfit, fun s o number handler hr hn => ha.installs hr hn,
    fun p host scene dir hp hd hf => ?_, fun p host scene dir hp hd hf => ?_⟩
  · rw [← hi (Platform.prepareLog host c), Platform.create, h]
    dsimp only
    cases Inspect.Inspector.create (Platform.prepareLog host c) c.inspectSignal c.inspectTimeout <;>
      simp
  · rw [Platform.create, h]
    simp only [Inspect.Inspector.create, Inspect.usableSignal_of_lt hl]
  · have ht := (ha.create_eq_ok_iff hd).mpr ⟨hf, rfl⟩
    simp only [Platform.abort, Platform.snapshot, hp, hd, ht]
  · have ht := ha.create_misfit hd hf
    simp only [Platform.abort, Platform.snapshot, hp, hd, ht]

/-! ### The first real-time signal, and a zero byte -/

/-- The standard configuration with another signal and another directory. -/
def withSignalAndDir (number : Int) (dir : Bytes) : Config :=
  { standard with inspectSignal := number, dumpDir := some dir }

/-- The last signal, and a directory with a slash at its end. -/
theorem enforced_last_signal : (withSignalAndDir 31 [0x2F, 0x64, 0x2F]).validate = .ok () ∧
    Fits [0x2F, 0x64, 0x2F] ∧ (withSignalAndDir 31 [0x2F, 0x64, 0x2F]).Enforced :=
  ⟨by decide, by unfold Fits; decide, enforced_of_validate (by decide)⟩

/-- Accepted configurations that are of no use: nothing can be made of the first one, and the second
one leaves no snapshots. -/
theorem accepted_in_vain :
    (withSignalAndDir 34 [0x2F]).validate = .ok () ∧
      (Platform.create (.startAt .off) (withSignalAndDir 34 [0x2F])).1 = .error Inspect.unknown ∧
    (withSignalAndDir 12 [0x2F, 0]).validate = .ok () ∧
      Target.create [0x2F, 0] (withSignalAndDir 12 [0x2F, 0]).maxFrames = .error Snapshot.misfit := by
  decide +kernel

end Config
end VmHost
