import VmHost.Proofs.Monitor.Guarded
import VmHost.Proofs.Monitor.Interruption

/-!
# Operations in the name of a thread of another OS thread

An operation that asks for the owner of a monitor compares identities, while the mutex that guards
depth and queue belongs to an OS thread. Both belong together as long as every identity stays on its
own OS thread (`Held.untouched`). Without that discipline an OS thread that passes the identity of
the owner gets at depth and queue without the mutex. It *trespasses*.

`Trace.trespasses_iff` says when an operation that returns has trespassed: its call was made in the
name of the owner by an OS thread that did not hold the mutex, and was not a wait. A wait trespasses
as well, but breaks a rule as it gives the mutex up, and does not return.
-/
namespace VmHost.Monitor

open State Point

/-- The step reads or writes the depth or the queue of a monitor: with some other values there, it
cannot be taken, or does something else or does not leave them alone. -/
def Moment.Touches (x : Moment) (m : MonitorId) : Prop :=
  ∃ d q, (x.before.withGuarded m d q).step x.label ≠ some (x.after.withGuarded m d q)

/-- The last operation of an OS thread touches the depth or the queue of a monitor when the OS thread
does not hold the mutex. Where a step takes the mutex, it does so first. -/
def Trespasses (o : OsThread) (m : MonitorId) (past : List Moment) : Prop :=
  ∃ x ∈ deeds o past, x.Touches m ∧ (x.after.monitors.get m).lock.holder ≠ some o

variable {home : Identity → OsThread} {s t u : State} {l : Label} {o : OsThread} {i : Identity}
  {m : MonitorId} {c : Call} {a : Reply} {d : Nat} {q : List Identity} {past : List Moment}
  {x : Moment}

/-! ## Which steps touch the fields -/

theorem Moment.touches_of (hu : (s.withGuarded m d q).step l = some u)
    (hn : u ≠ t.withGuarded m d q) : Moment.Touches ⟨s, l, t⟩ m :=
  ⟨d, q, fun h => hn (Option.some.inj (hu.symm.trans h))⟩

theorem Moment.touches_of_depth (hu : (s.withGuarded m d q).step l = some u)
    (hd : (u.monitors.get m).depth ≠ d) : Moment.Touches ⟨s, l, t⟩ m :=
  touches_of hu fun e => hd (by simp [e, withGuarded])

theorem Moment.touches_of_queue (hu : (s.withGuarded m d q).step l = some u)
    (hq : (u.monitors.get m).queue ≠ q) : Moment.Touches ⟨s, l, t⟩ m :=
  touches_of hu fun e => hq (by simp [e, withGuarded])

theorem Call.Uses.touches (hc : c.Uses m) (hi : (s.monitors.get m).owner = some i)
    (hs : s.step (.call o i c) = some t) : Moment.Touches ⟨s, .call o i c, t⟩ m := by
  have hv := step_violation hs
  obtain ⟨r, hr⟩ := (step_transition hs).rest_of_call
  have ho (d q) : ((s.withGuarded m d q).monitors.get m).owner = some i := by simpa using hi
  have hd (d q) : ((s.withGuarded m d q).monitors.get m).depth = d := by simp [withGuarded]
  have hq (d q) : ((s.withGuarded m d q).monitors.get m).queue = q := by simp [withGuarded]
  cases hc with
  | enters he =>
    have ht : Transition (s.withGuarded m 0 []) _ _ := .nests hr he (ho ..) (by rw [hd]; decide)
    exact Moment.touches_of_depth (ht.step hv) (by simp [hd])
  | release =>
    have ht : Transition (s.withGuarded m 2 []) _ _ := .unnests (d := 0) hr (ho ..) (hd ..)
    exact Moment.touches_of_depth (ht.step hv) (by simp)
  | notifies hn =>
    have hn : c.Notifies m [0] [] := by
      cases hn with
      | nobody | one => exact .one m 0 []
      | all => exact .all m [0]
    have ht : Transition (s.withGuarded m 0 [0]) _ _ := .notifies hr hn (ho ..) (hq ..)
    exact Moment.touches_of_queue (ht.step hv) (by simp)
  | depth =>
    have ht : Transition (s.withGuarded m ((s.monitors.get m).depth + 1) []) _ _ :=
      .begins hr (.depth m (ho ..))
    refine Moment.touches_of (ht.step hv) fun e => ?_
    obtain rfl := (Transition.begins hr (.depth m hi)).eq_of_step hs
    have := congrArg (·.point o) e
    simp [withGuarded] at this
  | waiterCount =>
    have ht : Transition (s.withGuarded m 0 (0 :: (s.monitors.get m).queue)) _ _ :=
      .begins hr (.waiterCount m (ho ..))
    refine Moment.touches_of (ht.step hv) fun e => ?_
    obtain rfl := (Transition.begins hr (.waiterCount m hi)).eq_of_step hs
    have := congrArg (·.point o) e
    simp [withGuarded] at this

/-- A step touches the depth or the queue if and only if its code uses them. -/
theorem Moment.touches_iff (hs : s.step l = some t) :
    Moment.Touches ⟨s, l, t⟩ m ↔ s.Uses m l := by
  have hv := step_violation hs
  constructor
  · rintro ⟨d, q, hn⟩
    exact Classical.byContradiction fun hu => hn ((step_transition hs).step_withGuarded hv hu)
  · intro hu
    cases hu with
    | call hc hi => exact hc.touches hi hs
    | enters hp hn =>
      obtain ⟨a, hp⟩ := exists_reply hp
      have ht : Transition (s.withGuarded m 0 []) _ _ := .enters hp (by simpa using hn)
      exact touches_of_depth (ht.step hv) (by simp)
    | queues hp hn hi =>
      have ht : Transition (s.withGuarded m 1 []) _ _ := .queues hp hn hi
      exact touches_of_depth (ht.step hv) (by simp)
    | @returns o w n b hp hm hn =>
      subst hm
      have ht : Transition (s.withGuarded w.monitor (w.saved + 1) []) _ _ :=
        .returns hp (by simpa using hn)
      exact touches_of_depth (ht.step hv) (by simp)

/-! ## Who trespasses -/

/-- An OS thread that is to give up a mutex that it does not hold stays where it is. -/
theorem State.stays {w : Waiting} (hs : s.step l = some t) (ho : l.actor = some o)
    (hp : s.point o = .yielding w) (hh : (s.monitors.get w.monitor).lock.holder ≠ some o) :
    t.point o = .yielding w ∧ (t.monitors.get w.monitor).lock.holder ≠ some o := by
  cases l with
  | call =>
    cases ho
    obtain ⟨r, hr⟩ := (step_transition hs).rest_of_call
    rw [hp] at hr
    cases hr
  | advance =>
    cases ho
    have hc : Crashes s o .lockNotHeld := .give w.monitor (by rw [hp]; rfl) hh
    obtain rfl := (Transition.crashes hc).eq_of_step hs
    exact ⟨hp, hh⟩
  | giveUp =>
    cases ho
    cases step_transition hs with
    | wakes hq hl =>
      cases Option.some.inj (wakes_actor hl)
      rw [hp] at hq
      cases hq
  | pass => cases ho

theorem State.Uses.call_or (hu : s.Uses m l) (hs : s.step l = some t) (ho : l.actor = some o)
    (hh : (t.monitors.get m).lock.holder ≠ some o) :
    (∃ i c, l = .call o i c ∧ c.Uses m ∧ (s.monitors.get m).owner = some i) ∨
      ∃ w, t.point o = .yielding w ∧ w.monitor = m := by
  rcases hu.holder_or hs with ⟨x, i, c, rfl, hc, hi⟩ | ⟨x, ms, w, rfl, -, hp, hm, -⟩ | ⟨x, ha, hk⟩
  · cases ho
    exact .inl ⟨i, c, rfl, hc, hi⟩
  · cases ho
    exact .inr ⟨w, hp, hm⟩
  · cases ha.symm.trans ho
    exact absurd hk hh

/-- An OS thread that has touched depth or queue without the mutex has done so with its call, or is
about to give up a mutex that it does not hold. -/
theorem Trace.trespassing (h : Trace past s) (hx : x ∈ deeds o past) (ht : x.Touches m)
    (hh : (x.after.monitors.get m).lock.holder ≠ some o) :
    (∃ i c, x.label = .call o i c ∧ c.Uses m ∧ (x.before.monitors.get m).owner = some i) ∨
      ∃ w, s.point o = .yielding w ∧ w.monitor = m ∧
        (s.monitors.get m).lock.holder ≠ some o := by
  induction h with
  | start => cases hx
  | @step past s t l _ hs ih =>
    by_cases ho : l.actor = some o
    case neg =>
      rw [deeds_other ho] at hx
      refine (ih hx).imp_right fun ⟨w, hp, hm, hn⟩ => ⟨w, ?_, hm, fun hk => ?_⟩
      · rw [((step_transition hs).standing_other ho).1, hp]
      · exact hn (((step_transition hs).holder_of hk).resolve_right ho)
    obtain rfl | hx : x = ⟨s, l, t⟩ ∨ x ∈ deeds o past := by
      cases hc : Moment.calls o ⟨s, l, t⟩ with
      | true =>
        obtain ⟨i, c, rfl⟩ := Moment.calls_iff.mp hc
        rw [deeds_call] at hx
        exact .inl (List.mem_singleton.mp hx)
      | false =>
        rw [deeds_self ho hc] at hx
        exact List.mem_cons.mp hx
    · refine (((Moment.touches_iff hs).mp ht).call_or hs ho hh).imp_right fun ⟨w, hp, hm⟩ => ?_
      exact ⟨w, hp, hm, hh⟩
    · refine (ih hx).imp_right fun ⟨w, hp, hm, hn⟩ => ?_
      subst hm
      obtain ⟨hp, hn⟩ := stays hs ho hp hn
      exact ⟨w, hp, rfl, hn⟩

/-! ## Disciplined runs -/

theorem Run.fits_of_mem (h : Run home past s) (hx : x ∈ past) :
    Held home x.before ∧ x.label.Fits home := by
  induction h with
  | start => cases hx
  | step l hr hf _ ih =>
    rcases List.mem_cons.mp hx with rfl | hx
    · exact ⟨hr.held, hf⟩
    · exact ih hx

/-- As long as every identity stays on its own OS thread, nobody trespasses. -/
theorem Run.not_trespasses (h : Run home past s) : ¬ Trespasses o m past := by
  rintro ⟨x, hx, ⟨d, q, hn⟩, hh⟩
  obtain ⟨hd, hf⟩ := h.fits_of_mem (mem_of_mem_deeds hx)
  refine hn (hd.untouched hf (h.trace.step_of_mem (mem_of_mem_deeds hx)) fun y hy => ?_)
  have ho := (List.mem_filter.mp hx).2
  rw [hy, decide_eq_true_eq, Option.some.injEq] at ho
  exact ho ▸ hh

/-! ## Operations that return -/

/-- An operation that has returned was called for, and its OS thread rests. -/
theorem Answers.call_rests (ha : Answers o past i c a) (h : Trace past s) :
    lastCall o past = some (i, c) ∧ s.point o = .rest (some a) := by
  obtain ⟨ho, ha⟩ := ha
  cases h with
  | start => cases ha
  | step l _ hs =>
    obtain ⟨hc, hr⟩ := (answered_eq_some_iff ho).mp ha
    exact ⟨hc, Moment.answer?_eq_some_iff.mp hr⟩

/-- **Who trespasses and returns.** The call was made in the name of the owner, on an OS thread that
did not hold the mutex. -/
theorem Trace.trespasses_iff (h : Trace past s) (ha : Answers o past i c a) :
    Trespasses o m past ↔ c.Uses m ∧ ∃ x ∈ deeds o past, x.label = .call o i c ∧
      (x.before.monitors.get m).owner = some i ∧
      (x.before.monitors.get m).lock.holder ≠ some o := by
  constructor
  · rintro ⟨x, hx, ht, hh⟩
    obtain ⟨hc, hr⟩ := ha.call_rests h
    rcases h.trespassing hx ht hh with ⟨j, d, hl, hu, hj⟩ | ⟨w, hp, -⟩
    · cases hc.symm.trans (lastCall_of_mem_deeds hx hl)
      have hs := h.step_of_mem (mem_of_mem_deeds hx)
      rw [hl] at hs
      rw [(step_transition hs).lock_of_call] at hh
      exact ⟨hu, x, hx, hl, hj, hh⟩
    · rw [hr] at hp
      cases hp
  · rintro ⟨hu, x, hx, hl, hi, hh⟩
    have hs := h.step_of_mem (mem_of_mem_deeds hx)
    refine ⟨x, hx, (Moment.touches_iff hs).mpr ?_, ?_⟩
    · exact hl ▸ .call hu hi
    · rw [hl] at hs
      rwa [(step_transition hs).lock_of_call]

/-! ### Two OS threads that share an identity -/

/-- An OS thread has entered a monitor, and another one has done nothing yet. -/
theorem exists_entered : ∃ past s, Trace past s ∧ s.violation = none ∧ s.point 1 = .rest none ∧
    s.monitors.get 0 = ⟨⟨some 0⟩, some 0, 1, []⟩ := by
  obtain ⟨past, s, h, hp⟩ := exists_run id
    (fun _ s => s.violation = none ∧ s.point 1 = .rest none ∧
      s.monitors.get 0 = ⟨⟨some 0⟩, some 0, 1, []⟩)
    (Label.enter 0 0) (by decide)
  simp only [decide_eq_true_eq] at hp
  exact ⟨past, s, h.trace, hp⟩

/-- The other OS thread asks for the depth in the name of the owner, and gets it. -/
theorem trespasses_depth : ∃ past s, Trace past s ∧ Answers 1 past 0 (.depth 0) (.count 1) ∧
    Trespasses 1 0 past := by
  obtain ⟨past, s, h, hv, hp, hm⟩ := exists_entered
  have hi : (s.monitors.get 0).owner = some 0 := by rw [hm]
  have hs : s.step (.call 1 0 (.depth 0)) = some (s.place 1 0 (.rest (some (.count 1)))) := by
    have := (Transition.begins hp (.depth 0 hi)).step hv
    rwa [hm] at this
  have ha : Answers 1 (⟨s, .call 1 0 (.depth 0), s.place 1 0 (.rest (some (.count 1)))⟩ :: past)
      0 (.depth 0) (.count 1) := by
    refine ⟨rfl, (answered_eq_some_iff rfl).mpr ⟨lastCall_call .., ?_⟩⟩
    rw [Moment.answer?_eq_some_iff]
    exact point_place ..
  have ht := (h.step _ hs).trespasses_iff (m := 0) ha
  exact ⟨_, _, h.step _ hs, ha, ht.mpr ⟨.depth 0, _, mem_deeds_call, rfl, hi, by simp [hm]⟩⟩

/-- The other OS thread enters the monitor in the name of the owner. The depth changes, and the mutex
is not its own. -/
theorem trespass_returns : ∃ past s, Trace past s ∧ Answers 1 past 0 (.acquire 0) .done ∧
    s.monitors.get 0 = ⟨⟨some 0⟩, some 0, 2, []⟩ ∧ Trespasses 1 0 past := by
  obtain ⟨past, s, h, hv, hp, hm⟩ := exists_entered
  have hi : (s.monitors.get 0).owner = some 0 := by rw [hm]
  have hs := (Transition.nests hp (.acquire 0) hi (by rw [hm]; decide)).step hv
  refine ⟨_, _, h.step _ hs, ⟨rfl, (answered_eq_some_iff rfl).mpr ⟨lastCall_call .., ?_⟩⟩,
    by simp [hm], _, mem_deeds_call, ?_, by simp [hm]⟩
  · rw [Moment.answer?_eq_some_iff]
    exact point_place ..
  · exact (Moment.touches_iff hs).mpr (.call (.enters (.acquire 0)) hi)

end VmHost.Monitor
