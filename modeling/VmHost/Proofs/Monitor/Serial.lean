import VmHost.Proofs.Monitor.Ledger
import VmHost.Proofs.Monitor.LockOrder

/-!
# Operations one at a time

Here operations are carried out one at a time, but by any OS thread in the name of any identity:
nothing ties an identity to an OS thread. An operation runs until it has its answer, is blocked or
has violated a rule (`Performs`); in between, the blocked ones go on whenever they can (`Serial`).

Between two operations a monitor has an owner if and only if its depth is positive and if and only if
its mutex is held, whoever may hold it, and no OS thread stands at the mutex of a monitor that it
holds itself (`Tidy`). Blocked operations that go on preserve this (`Tidy.proceed`).
-/
namespace VmHost.Monitor

open State Point

/-- An OS thread goes on for as long as it can, while nobody else does anything. -/
inductive Alone (o : OsThread) : State → State → Prop
  | stops {s : State} : (∀ t, s.step (.advance o) ≠ some t) → Alone o s s
  | step {s t u : State} : s.step (.advance o) = some t → Alone o t u → Alone o s u

/-- An OS thread carries out an operation, until it has an answer, is blocked or has violated a
rule, while nobody else does anything. -/
def Performs (s : State) (o : OsThread) (i : Identity) (c : Call) (u : State) : Prop :=
  ∃ t, s.step (.call o i c) = some t ∧ Alone o t u

/-- The OS thread is outside every operation, or at a place where it can be blocked. -/
def Point.IsCalm : Point → Bool
  | .rest _ | .overflowed | .entering _ | .sleeping .. | .reentering .. => true
  | _ => false

/-- Every operation has ended or stands where it can be blocked. -/
def State.Calm (s : State) : Prop := ∀ o, (s.point o).IsCalm

/-- The states that are reached by operations one at a time. -/
inductive Serial : State → Prop
  | start : Serial .start
  | call {s t : State} {o : OsThread} {i : Identity} {c : Call} : Serial s → s.Calm →
    Performs s o i c t → Serial t
  /-- An operation that was blocked goes on, or time passes. -/
  | proceed {s t : State} {l : Label} : Serial s → l.call? = none → s.step l = some t → Serial t

variable {s t u : State} {l : Label} {o : OsThread} {i : Identity} {c : Call} {m : MonitorId}

/-! ## What an operation leads to -/

theorem Alone.unique {t' : State} (h : Alone o s t) (h' : Alone o s t') : t = t' := by
  induction h with
  | stops hn =>
    cases h' with
    | stops => rfl
    | step hs => exact absurd hs (hn _)
  | step hs _ ih =>
    cases h' with
    | stops hn => exact absurd hs (hn _)
    | step hs' h' =>
      rw [hs, Option.some.injEq] at hs'
      exact ih (hs' ▸ h')

/-- An operation leads to one state only. -/
theorem Performs.unique {t' : State} (h : Performs s o i c t) (h' : Performs s o i c t') : t = t' := by
  obtain ⟨u, hs, ha⟩ := h
  obtain ⟨u', hs', ha'⟩ := h'
  rw [hs, Option.some.injEq] at hs'
  exact ha.unique (hs' ▸ ha')

/-- What nobody but one OS thread can have done. -/
structure Apart (o : OsThread) (s t : State) : Prop where
  point : ∀ x, x ≠ o → t.point x = s.point x
  holder : ∀ m x, x ≠ o → (t.monitors.get m).lock.holder = some x →
    (s.monitors.get m).lock.holder = some x
  celled : s.Celled → t.Celled

theorem Apart.refl : Apart o s s := ⟨fun _ _ => rfl, fun _ _ _ h => h, fun h => h⟩

theorem Apart.trans (h : Apart o s t) (k : Apart o t u) : Apart o s u where
  point x hx := (k.point x hx).trans (h.point x hx)
  holder m x hx hh := h.holder m x hx (k.holder m x hx hh)
  celled hc := k.celled (h.celled hc)

theorem Transition.apart (ht : Transition s l t) (hl : ∀ x ≠ o, l.actor ≠ some x) :
    Apart o s t where
  point x hx := (ht.standing_other (hl x hx)).1
  holder _ x hx hh := (ht.holder_of hh).resolve_right (hl x hx)
  celled hc := hc.step ht

theorem apart_of_step (hs : s.step l = some t) (hl : l.actor = some o) : Apart o s t :=
  (step_transition hs).apart fun _ hx h => hx (Option.some.inj (h.symm.trans hl))

theorem Alone.apart (h : Alone o s t) : Apart o s t := by
  induction h with
  | stops => exact .refl
  | step hs _ ih => exact (apart_of_step hs rfl).trans ih

theorem Performs.apart (h : Performs s o i c t) : Apart o s t := by
  obtain ⟨u, hs, ha⟩ := h
  exact (apart_of_step hs rfl).trans ha.apart

/-! ## Between two operations -/

/-- The monitor has an owner if and only if its depth is positive and if and only if its mutex is
held. -/
def Paired (x : Monitor) : Prop :=
  (x.owner.isSome ↔ 1 ≤ x.depth) ∧ (1 ≤ x.depth ↔ x.lock.isHeld)

/-- The OS thread stands at a place where an operation can be blocked or goes on after that. It does
not hold the mutex that it is to take. -/
def State.Placed (s : State) (o : OsThread) : Prop :=
  match s.point o with
  | .rest _ | .overflowed => True
  | .entering m => (s.monitors.get m).lock.holder ≠ some o
  | .sleeping w _ | .waking w | .deciding w .. | .reentering w .. =>
    (s.monitors.get w.monitor).lock.holder ≠ some o ∧ 1 ≤ w.saved
  | _ => False

/-- The OS thread is in the middle of an operation that has not been blocked yet. -/
def Point.IsFresh : Point → Prop
  | .rest _ | .overflowed | .entering _ | .sleeping .. | .waking _ | .deciding .. | .reentering .. =>
    False
  | _ => True

/-- Monitors, park cells and OS threads as they are while no operation but blocked ones is under
way. -/
structure Tidy (s : State) : Prop where
  paired : ∀ m, Paired (s.monitors.get m)
  placed : ∀ o, s.Placed o
  celled : s.Celled

theorem paired_onMonitor {f : Monitor → Monitor} (h : ∀ m, Paired (s.monitors.get m))
    (hf : Paired (f (s.monitors.get m))) (m' : MonitorId) :
    Paired ((s.onMonitor m f).monitors.get m') := by
  rw [get_onMonitor]
  split
  · exact hf
  · exact h m'

theorem Paired.owner_eq_none_iff {x : Monitor} (h : Paired x) :
    x.owner = none ↔ x.lock.holder = none := by
  have := h.1.trans h.2
  simpa [Mutex.isHeld, Option.isSome_iff_ne_none] using not_congr this

/-- An OS thread that stands where it can be blocked stays there whatever the others do. -/
theorem State.Placed.other (h : s.Placed o) {x : OsThread} (ha : Apart x s t) (hx : o ≠ x) :
    t.Placed o := by
  have hh (m : MonitorId) : (s.monitors.get m).lock.holder ≠ some o →
      (t.monitors.get m).lock.holder ≠ some o := mt (ha.holder m o hx)
  unfold Placed at h ⊢
  rw [ha.point o hx]
  split at h <;> simp_all

/-- What one OS thread does leaves everything in order if it does so for this OS thread and the
monitors. -/
theorem Tidy.apart (h : Tidy s) (ha : Apart o s t) (hp : ∀ m, Paired (t.monitors.get m))
    (ho : t.Placed o) : Tidy t where
  paired := hp
  placed x := by
    by_cases hx : x = o
    · exact hx ▸ ho
    · exact (h.placed x).other ha hx
  celled := ha.celled h.celled

theorem Tidy.start : Tidy .start where
  paired m := by simp [Paired, Monitor.free, Mutex.free, Mutex.isHeld]
  placed o := by simp [Placed]
  celled := celled_start

theorem Tidy.not_placed (h : Tidy s) (ho : (s.point o).IsFresh) : False := by
  have hp := h.placed o
  unfold Placed at hp
  cases hq : s.point o <;> rw [hq] at ho hp <;> first | exact ho | exact hp

/-- An operation that goes on after it was blocked violates nothing. -/
theorem Tidy.not_crashes (h : Tidy s) {v : Violation} : ¬ Crashes s o v := by
  intro hc
  have hp := h.placed o
  unfold Placed at hp
  cases hc with
  | seek m hs hh => cases hq : s.point o <;> rw [hq] at hs hp <;> simp_all [seek]
  | reach j hr hh => exact State.Celled.not_reached h.celled hr hh
  | give m ht hh => cases hq : s.point o <;> rw [hq] at ht hp <;> simp_all [tie]
  | drop j hd hh => exact hh (State.Celled.dropped h.celled hd)

theorem Tidy.proceed (h : Tidy s) (hl : l.call? = none) (hs : s.step l = some t) : Tidy t := by
  have ht := step_transition hs
  cases ht with
  | passes => exact ⟨h.paired, h.placed, h.celled⟩
  | crashes hc => exact (h.not_crashes hc).elim
  | begins | refused | nests | unnests | quits | notifiesNobody | notifies => cases hl
  | enters hp hn =>
    refine h.apart (apart_of_step hs rfl) (paired_onMonitor h.paired ?_) (by simp [Placed])
    simp [Paired, Mutex.isHeld]
  | @wakes o _ _ _ hp hw =>
    have ho := h.placed o
    rw [Placed, hp] at ho
    exact h.apart (apart_of_step hs (wakes_actor hw)) h.paired (by simpa [Placed] using ho)
  | @collects o _ hp | @decides o _ _ _ hp =>
    have ho := h.placed o
    rw [Placed, hp] at ho
    exact h.apart (apart_of_step hs rfl) h.paired (by simpa [Placed] using ho)
  | @returns o _ _ _ hp hn =>
    have ho := h.placed o
    rw [Placed, hp] at ho
    refine h.apart (apart_of_step hs rfl) (paired_onMonitor h.paired ?_) (by simp [Placed])
    simp [Paired, Mutex.isHeld, ho.2]
  | misses hp | leaves hp | declines hp | declined hp | queues hp | yields hp | clears hp | parks hp
  | flags hp | signals hp | delivers hp | delivered hp | posts hp | rouses hp | posted hp | asks hp
  | answers hp => exact (h.not_placed (by rw [hp]; trivial)).elim

/-- Where every operation has ended or stands where it can be blocked, all park cells are free. -/
theorem Tidy.cell_free (h : Tidy s) (hc : s.Calm) (j : Identity) :
    (s.parks.get j).lock.holder = none := by
  refine Option.eq_none_iff_forall_ne_some.mpr fun o hh => ?_
  have hj := (h.celled o j).mp hh
  have ho := hc o
  cases hp : s.point o <;> simp_all [IsCalm, Point.cell]

end VmHost.Monitor
