import VmHost.Proofs.Inspect.Transition
import VmHost.Proofs.Run

/-!
# One inspector at a time

An inspector goes about its inspection while it has the system mutex. It takes the mutex before it looks
at its target, and it releases the mutex when everything else is done, whatever becomes of the
inspection.

* `Run.exclusive`: the holder of the mutex is the one that is inside, in every run from a quiet state.
* `Exclusive.violation_advance`: so no inspector breaks a rule by going on.
-/
namespace VmHost.Inspect

open State

/-- The inspector has the system mutex. -/
def Inspecting.IsInside : Inspecting → Prop
  | .out _ | .locking _ => False
  | _ => True

/-- Nobody inspects, and no handler is running. -/
structure State.Quiet (s : State) : Prop where
  lock : s.lock.holder = none
  phase : s.slot.phase = .idle
  out : ∀ o, s.isOut o = true
  handler : ∀ t, s.handler t = .out

/-- The runs of inspections. -/
abbrev Run (s₀ : State) (past : List (Machine.Moment State Label)) (s : State) : Prop :=
  Machine.Run State.step s₀ past s

/-- Who has the system mutex is inside, and nobody else. -/
def Exclusive (s : State) : Prop := ∀ o, s.lock.holder = some o ↔ (s.inspectors.get o).IsInside

variable {s₀ s s' t : State} {l : Label} {o x : OsThread} {p : Inspecting} {f : Slot → Slot}
  {past : List (Machine.Moment State Label)}

/-! ## One step -/

theorem Moves.isInside (hm : Moves s o l p) : (s.inspectors.get o).IsInside ↔ p.IsInside := by
  cases hm <;> simp [*, Inspecting.IsInside]

theorem Writes.isInside (hw : Writes s o f p) : (s.inspectors.get o).IsInside ∧ p.IsInside := by
  cases hw <;> simp [*, Inspecting.IsInside]

theorem State.Quiet.exclusive (h : s.Quiet) : Exclusive s := by
  intro o
  obtain ⟨r, hr⟩ := isOut_iff.mp (h.out o)
  rw [h.lock, hr]
  exact iff_of_false nofun id

namespace Exclusive

theorem alone (hc : Exclusive s) (ho : (s.inspectors.get o).IsInside)
    (hx : (s.inspectors.get x).IsInside) : x = o :=
  Option.some.inj (((hc x).mpr hx).symm.trans ((hc o).mpr ho))

theorem same (hc : Exclusive s) (hl : t.lock = s.lock) (hx : t.inspectors = s.inspectors) :
    Exclusive t := by
  intro o
  rw [hl, hx]
  exact hc o

/-- An inspector goes on, and stays inside or outside. -/
theorem moveTo (hc : Exclusive s) (hi : (s.inspectors.get o).IsInside ↔ p.IsInside)
    (hl : t.lock = s.lock) (hx : t.inspectors = s.inspectors) : Exclusive (t.moveTo o p) := by
  intro x
  rw [lock_moveTo, get_moveTo, hl, hx]
  split
  · rename_i e
    rw [e, hc o, hi]
  · exact hc x

theorem locks (hc : Exclusive s) {q : Request} (hn : s.lock.holder = none) :
    Exclusive ({ s with lock := ⟨some o⟩ }.moveTo o (.judging q)) := by
  intro x
  have hx : ¬ (s.inspectors.get x).IsInside := by
    rw [← hc x, hn]
    nofun
  rw [get_moveTo]
  split
  · rename_i e
    exact iff_of_true (by simp [e]) trivial
  · rename_i e
    exact iff_of_false (by simpa using Ne.symm e) hx

theorem unlocks (hc : Exclusive s) {r : Outcome} (hp : s.inspectors.get o = .unlocking r) :
    Exclusive ({ s with lock := .free }.moveTo o (.out (some r))) := by
  intro x
  rw [get_moveTo]
  refine iff_of_false nofun ?_
  split
  · exact id
  · rename_i e
    exact fun hi => e (hc.alone (by rw [hp]; trivial) hi)

theorem step (hc : Exclusive s) (hs : s.step l = some s') : Exclusive s' := by
  cases step_transition hs with
  | moves hm => exact hc.moveTo hm.isInside rfl rfl
  | writes hw => exact hc.moveTo (iff_of_true hw.isInside.1 hw.isInside.2) rfl rfl
  | locks _ hn => exact hc.locks hn
  | unlocks hp => exact hc.unlocks hp
  | signals hp =>
    refine hc.moveTo ?_ rfl rfl
    rw [hp]
    exact .rfl
  | shows hp =>
    refine hc.moveTo ?_ rfl rfl
    rw [hp]
    exact .rfl
  | delivers | reads | stores | restores | strays | happens | passes | violates =>
    exact hc.same rfl rfl

/-- Going on, an inspector breaks no rule. -/
theorem not_breaks (hc : Exclusive s) {v : Violation} : ¬ Breaks s (.advance o) o v := by
  intro hb
  cases hb with
  | relocks hp hh =>
    have hi := (hc o).mp hh
    rw [hp] at hi
    exact hi
  | unlocks hp hh => exact hh ((hc o).mpr (by rw [hp]; trivial))

theorem violation_advance (hc : Exclusive s) (hs : s.step (.advance o) = some s') :
    s'.violation = none := by
  have hv := violation_of_step hs
  cases step_transition hs with
  | violates hb =>
    obtain rfl := Option.some.inj hb.inspector?
    exact absurd hb hc.not_breaks
  | _ => exact hv

theorem run (hc : Exclusive s₀) (h : Run s₀ past s) : Exclusive s := by
  induction h with
  | start => exact hc
  | step l _ hs ih => exact ih.step hs

end Exclusive

theorem Run.exclusive (h : Run s₀ past s) (h₀ : s₀.Quiet) : Exclusive s := h₀.exclusive.run h

end VmHost.Inspect
