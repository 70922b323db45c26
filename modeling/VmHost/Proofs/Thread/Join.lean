import VmHost.Thread.Life

/-!
# When a join returns

A join that gets the join handle waits for the OS thread to end. A join that finds no handle returns
at once, for which there are three reasons. The OS thread has ended and was joined before; another
join has the handle and is still waiting; or the thread has passed itself out before its start has
stored the handle. In the last two cases the join is `Premature`.

`Sound` says where the handle is and what the stage tells about the OS thread; every step preserves
it (`Sound.step`). `Reachable.join_returns` is the result: after a join that succeeds, the thread is
over if and only if the join was not premature.
-/
namespace VmHost

namespace Starter

/-- The starter has got an OS thread. -/
def HasSpawned : Starter → Prop
  | .publishing | .storing | .returned => True
  | _ => False

end Starter

namespace Joiner

/-- A join is under way. -/
def IsInside : Joiner → Prop
  | .out _ => False
  | _ => True

end Joiner

namespace Life

/-- The OS thread has ended, after its task. -/
def Ended (l : Life) : Prop := ∃ panicked, l.runner = .ended panicked

/-- The published stage says that the task has ended. -/
def IsOver (l : Life) : Prop := l.stage = .finished ∨ l.stage = .joined

/-- A join is about to find no handle while the OS thread has not ended: the starter has not stored
the handle yet, or another join has taken it and waits. -/
structure Premature (l : Life) (o : OsThread) : Prop where
  taking : l.joiners.get o = .taking
  handle : l.handle = false
  alive : ¬ l.Ended
  elsewhere : (l.starter = .publishing ∨ l.starter = .storing) ∨
    ∃ x, x ≠ o ∧ l.joiners.get x = .awaiting

/-- What the parties of a life agree on. -/
structure Sound (l : Life) : Prop where
  spawned : l.runner ≠ .unborn ↔ l.starter.HasSpawned
  announced : l.starter = .spawning → l.stage = .running
  tells : l.runner ≠ .unborn → (l.IsOver ↔ l.Ended)
  /-- A handle that has been stored is still there, or a join has it, or the OS thread has ended. -/
  stored : l.starter = .returned →
    l.handle = true ∨ (∃ x, l.joiners.get x = .awaiting) ∨ l.Ended
  inside : ∀ x, (l.joiners.get x).IsInside → l.runner ≠ .unborn
  marking : ∀ x panicked, l.joiners.get x = .marking panicked → l.Ended

variable {l k : Life} {os o : OsThread} {a : Label} {j : Joiner}

/-! ## One step -/

@[simp] theorem get_setJoiner (x : OsThread) :
    (l.setJoiner o j).joiners.get x = if x = o then j else l.joiners.get x :=
  Row.get_set ..

@[simp] theorem ended_setJoiner : (l.setJoiner o j).Ended ↔ l.Ended := .rfl

@[simp] theorem isOver_setJoiner : (l.setJoiner o j).IsOver ↔ l.IsOver := .rfl

@[simp] theorem get_created (x : OsThread) : (created os).joiners.get x = .out none :=
  Row.get_empty x

theorem Ended.born (h : l.Ended) : l.runner ≠ .unborn := by
  obtain ⟨p, hp⟩ := h
  simp [hp]

namespace Sound

theorem created : (created os).Sound where
  spawned := by simp [Life.created, Starter.HasSpawned]
  announced := by simp [Life.created]
  tells := by simp [Life.created]
  stored := by simp [Life.created]
  inside x hx := by simp [Joiner.IsInside] at hx
  marking x p hx := by simp at hx

/-- Who can be named has, or has had, an OS thread. -/
theorem born_of_isKnown (h : l.Sound) (hk : l.isKnown = true) : l.runner ≠ .unborn := by
  simp only [isKnown, Bool.or_eq_true, decide_eq_true_eq] at hk
  rcases hk with (hk | hk) | hk
  · exact h.spawned.mpr (by rw [hk]; trivial)
  · simp [hk]
  · intro hu
    simp [hu] at hk

/-- A joining OS thread goes on to something else than the handle. -/
theorem setJoiner (h : l.Sound) (ho : l.joiners.get o = .awaiting → l.Ended)
    (hi : j.IsInside → l.runner ≠ .unborn) (hm : ∀ panicked, j = .marking panicked → l.Ended) :
    (l.setJoiner o j).Sound where
  spawned := h.spawned
  announced := h.announced
  tells := h.tells
  stored hs := by
    rcases h.stored hs with hs | ⟨x, hx⟩ | hs
    · exact .inl hs
    · by_cases e : x = o
      · exact .inr (.inr (ho (e ▸ hx)))
      · exact .inr (.inl ⟨x, by simp [e, hx]⟩)
    · exact .inr (.inr hs)
  inside x hx := by
    rw [get_setJoiner] at hx
    split at hx
    · exact hi hx
    · exact h.inside x hx
  marking x p hx := by
    rw [get_setJoiner] at hx
    split at hx
    · exact hm p hx
    · exact h.marking x p hx

theorem unborn (h : l.Sound) (hs : ¬ l.starter.HasSpawned) : l.runner = .unborn :=
  Decidable.not_not.mp (mt h.spawned.mp hs)

/-- As long as there is no OS thread, the starter publishes what it likes. -/
theorem prepare (h : l.Sound) (hu : l.runner = .unborn) {stage : Stage} {starter : Starter}
    (hn : ¬ starter.HasSpawned) (hs : starter = .spawning → stage = .running) :
    { l with stage := stage, starter := starter }.Sound where
  spawned := iff_of_false (not_not_intro hu) hn
  announced := hs
  tells hb := absurd hu hb
  stored hr := absurd (by rw [show starter = .returned from hr]; trivial) hn
  inside := h.inside
  marking := h.marking

theorem starterStep (h : l.Sound) (hs : l.starterStep = some k) : k.Sound := by
  cases hp : l.starter <;> simp only [Life.starterStep, hp, Option.some.injEq, reduceCtorEq] at hs
  case announcing =>
    subst hs
    exact h.prepare (h.unborn (by rw [hp]; exact id)) id fun _ => rfl
  case spawning =>
    subst hs
    have hu := h.unborn (by rw [hp]; exact id)
    exact ⟨by simp [Starter.HasSpawned], nofun, fun _ => by simp [IsOver, Ended, h.announced hp],
      nofun, fun _ _ => nofun, fun x p hx => absurd hu (h.marking x p hx).born⟩
  case publishing =>
    subst hs
    have hb := h.spawned.mpr (by rw [hp]; trivial)
    exact ⟨by simp [hb, Starter.HasSpawned], nofun, h.tells, nofun, h.inside, h.marking⟩
  case storing =>
    subst hs
    have hb := h.spawned.mpr (by rw [hp]; trivial)
    exact ⟨by simp [hb, Starter.HasSpawned], nofun, h.tells, fun _ => .inl rfl, h.inside, h.marking⟩
  case withdrawing =>
    subst hs
    exact h.prepare (h.unborn (by rw [hp]; exact id)) id nofun

theorem not_spawning (h : l.Sound) (hb : l.runner ≠ .unborn) : l.starter ≠ .spawning := by
  intro hs
  have := h.spawned.mp hb
  rw [hs] at this
  exact this

/-- An OS thread that has not ended goes on. -/
theorem proceed (h : l.Sound) (hb : l.runner ≠ .unborn) (he : ¬ l.Ended)
    (hs : k.starter = l.starter) (hh : k.handle = l.handle) (hj : k.joiners = l.joiners)
    (hr : k.runner ≠ .unborn) (ho : k.IsOver ↔ k.Ended) : k.Sound where
  spawned := iff_of_true hr (hs ▸ h.spawned.mp hb)
  announced hp := absurd (hs ▸ hp) (h.not_spawning hb)
  tells _ := ho
  stored hp := by
    rw [hh, hj]
    rcases h.stored (hs ▸ hp) with hp | hp | hp
    · exact .inl hp
    · exact .inr (.inl hp)
    · exact absurd hp he
  inside _ _ := hr
  marking x p hx := absurd (h.marking x p (hj ▸ hx)) he

theorem runnerStep (h : l.Sound) (hs : l.runnerStep = some k) : k.Sound := by
  cases hp : l.runner <;> simp only [Life.runnerStep, hp, Option.some.injEq, reduceCtorEq] at hs
  case born =>
    subst hs
    have he : ¬ l.Ended := by simp [Ended, hp]
    have hb : l.runner ≠ .unborn := by simp [hp]
    have ho : ¬ l.IsOver := mt (h.tells hb).mp he
    exact h.proceed hb he rfl rfl rfl nofun (iff_of_false ho (by simp [Ended]))
  case ending p =>
    subst hs
    have he : ¬ l.Ended := by simp [Ended, hp]
    have hb : l.runner ≠ .unborn := by simp [hp]
    exact h.proceed hb he rfl rfl rfl nofun (iff_of_true (.inl rfl) ⟨p, rfl⟩)

theorem stop (h : l.Sound) (hp : l.runner = .running) (panicked : Bool) :
    { l with runner := .ending panicked }.Sound := by
  have he : ¬ l.Ended := by simp [Ended, hp]
  have hb : l.runner ≠ .unborn := by simp [hp]
  have ho : ¬ l.IsOver := mt (h.tells hb).mp he
  exact h.proceed hb he rfl rfl rfl nofun (iff_of_false ho (by simp [Ended]))

/-- A join takes the handle. -/
theorem take (h : l.Sound) (hp : l.joiners.get o = .taking) :
    ({ l with handle := false }.setJoiner o .awaiting).Sound where
  spawned := h.spawned
  announced := h.announced
  tells := h.tells
  stored _ := .inr (.inl ⟨o, by simp⟩)
  inside x hx := by
    rw [get_setJoiner] at hx
    split at hx
    · exact h.inside o (by rw [hp]; trivial)
    · exact h.inside x hx
  marking x p hx := by
    rw [get_setJoiner] at hx
    split at hx
    · cases hx
    · exact h.marking x p hx

/-- A join marks a thread that has ended. -/
theorem mark (h : l.Sound) (he : l.Ended) : { l with stage := .joined }.Sound where
  spawned := h.spawned
  announced hp := absurd hp (h.not_spawning he.born)
  tells _ := iff_of_true (.inr rfl) he
  stored := h.stored
  inside := h.inside
  marking := h.marking

theorem joinerStep (h : l.Sound) (hs : l.joinerStep o = some k) : k.Sound := by
  cases hp : l.joiners.get o <;>
    simp only [Life.joinerStep, hp, Option.some.injEq, reduceCtorEq] at hs
  case comparing =>
    subst hs
    refine h.setJoiner (by rw [hp]; nofun) (fun _ => h.inside o (by rw [hp]; trivial)) ?_
    intro p hj
    split at hj <;> cases hj
  case taking =>
    subst hs
    split
    · exact h.take hp
    · exact h.setJoiner (by rw [hp]; nofun) nofun nofun
  case awaiting =>
    split at hs
    · rename_i p hr
      cases hs
      have he : l.Ended := ⟨p, hr⟩
      exact h.setJoiner (fun _ => he) (fun _ => he.born) fun _ _ => he
    · cases hs
  case marking p =>
    subst hs
    have he := h.marking o p hp
    exact (h.mark he).setJoiner (fun _ => he) nofun nofun

theorem step (h : l.Sound) (hs : l.step a = some k) : k.Sound := by
  cases a with
  | start =>
    simp only [Life.step] at hs
    split at hs
    · rename_i hp
      cases hs
      exact h.prepare (h.unborn (by rw [hp]; exact id)) id nofun
    · cases hs
  | refuse errno =>
    simp only [Life.step] at hs
    split at hs
    · rename_i hp
      cases hs
      exact h.prepare (h.unborn (by rw [hp]; exact id)) id nofun
    · cases hs
  | starter => exact h.starterStep hs
  | runner => exact h.runnerStep hs
  | stop panicked =>
    simp only [Life.step] at hs
    split at hs
    · rename_i hp
      cases hs
      exact h.stop hp.1 panicked
    · cases hs
  | join o =>
    simp only [Life.step] at hs
    split at hs
    · rename_i r hp
      split at hs
      · rename_i hk
        cases hs
        refine h.setJoiner (by rw [hp]; nofun) (fun _ => h.born_of_isKnown hk) ?_
        intro p hj
        split at hj <;> cases hj
      · cases hs
    · cases hs
  | joiner o => exact h.joinerStep hs

end Sound

/-! ## Whole lives -/

theorem Reachable.sound (h : Reachable (created os) l) : l.Sound := by
  induction h with
  | refl => exact .created
  | step a _ hs ih => exact ih.step hs

/-- A join succeeds when it finds no handle, or when it has marked the thread. -/
theorem returns_ok (hs : l.joinerStep o = some k) (hj : k.joiners.get o = .out (some (.ok ()))) :
    l.joiners.get o = .taking ∧ l.handle = false ∧ k = l.setJoiner o (.out (some (.ok ()))) ∨
      ∃ panicked, l.joiners.get o = .marking panicked ∧
        k = { l with stage := .joined }.setJoiner o (.out (some (.ok ()))) := by
  cases hp : l.joiners.get o <;>
    simp only [Life.joinerStep, hp, Option.some.injEq, reduceCtorEq] at hs
  case comparing =>
    subst hs
    rw [get_setJoiner, if_pos rfl] at hj
    split at hj <;> cases hj
  case taking =>
    subst hs
    split at hj
    · rw [get_setJoiner, if_pos rfl] at hj
      cases hj
    · rename_i hh
      exact .inl ⟨rfl, by simpa using hh, if_neg hh⟩
  case awaiting =>
    split at hs
    · cases hs
      rw [get_setJoiner, if_pos rfl] at hj
      cases hj
    · cases hs
  case marking p =>
    exact .inr ⟨p, rfl, hs.symm⟩

/-- A join that finds no handle is premature, unless the OS thread has ended. -/
theorem Sound.premature (h : l.Sound) (hp : l.joiners.get o = .taking) (hh : l.handle = false)
    (he : ¬ l.Ended) : l.Premature o := by
  refine ⟨hp, hh, he, ?_⟩
  have hs := h.spawned.mp (h.inside o (by rw [hp]; trivial))
  cases hst : l.starter with
  | publishing => exact .inl (.inl rfl)
  | storing => exact .inl (.inr rfl)
  | returned =>
    rcases h.stored hst with ht | ⟨x, hx⟩ | ht
    · rw [hh] at ht
      cases ht
    · refine .inr ⟨x, ?_, hx⟩
      rintro rfl
      rw [hp] at hx
      cases hx
    · exact absurd ht he
  | absent | announcing | spawning | withdrawing | failed =>
    rw [hst] at hs
    exact hs.elim

/-- **What a join that succeeds tells.** The thread is over, unless the join was premature. -/
theorem Reachable.join_returns (h : Reachable (created os) l) (hs : l.step (.joiner o) = some k)
    (hj : k.joiners.get o = .out (some (.ok ()))) :
    (k.IsOver ↔ k.Ended) ∧ (k.IsOver ↔ ¬ l.Premature o) := by
  have hl := h.sound
  rcases returns_ok hs hj with ⟨hp, hh, rfl⟩ | ⟨p, hp, rfl⟩
  · rw [isOver_setJoiner, ended_setJoiner]
    have ho := hl.tells (hl.inside o (by rw [hp]; trivial))
    refine ⟨ho, ho.trans ⟨fun he hn => hn.alive he, fun hn => ?_⟩⟩
    exact Classical.byContradiction fun he => hn (hl.premature hp hh he)
  · have he : l.Ended := hl.marking o p hp
    refine ⟨iff_of_true (.inr rfl) he, iff_of_true (.inr rfl) fun hn => ?_⟩
    rw [hn.taking] at hp
    cases hp

theorem reachable_run {l₀ : Life} (h : Reachable l₀ l) (labels : List Label) :
    Reachable l₀ (l.run labels) := by
  induction labels generalizing l with
  | nil => exact h
  | cons a labels ih =>
    refine ih ?_
    cases hs : l.step a with
    | none => simpa [hs] using h
    | some k => simpa [hs] using h.step a hs

/-- A join that takes the handle waits for the end of the thread. A join in the name that the task
has passed out returns before that, as the start has not stored the handle. -/
theorem join_returns_early :
    (∃ l k, Reachable (created 0) l ∧ l.step (.joiner 1) = some k ∧
      k.joiners.get 1 = .out (some (.ok ())) ∧ k.IsOver) ∧
    ∃ l k, Reachable (created 0) l ∧ l.step (.joiner 1) = some k ∧
      k.joiners.get 1 = .out (some (.ok ())) ∧ l.starter = .publishing ∧ ¬ k.IsOver := by
  constructor
  · have h : Reachable (created 0) ((started 0).run
        [.join 1, .joiner 1, .joiner 1, .stop false, .runner, .joiner 1]) :=
      reachable_run (reachable_run .refl _) _
    exact ⟨_, _, h, rfl, rfl, (h.join_returns (o := 1) rfl rfl).2.mpr fun hp => nomatch hp.taking⟩
  · have h : Reachable (created 0) ((created 0).run
        [.start, .starter, .starter, .runner, .join 1, .joiner 1]) := reachable_run .refl _
    refine ⟨_, _, h, rfl, rfl, rfl, fun ho => ?_⟩
    exact (h.join_returns (o := 1) rfl rfl).2.mp ho ⟨rfl, rfl, nofun, .inl (.inl rfl)⟩

/-- The thread is running and one join waits for it. Another join returns at once. -/
theorem join_overlapping : ∃ l k, Reachable (created 0) l ∧ l.joiners.get 1 = .awaiting ∧
    l.step (.joiner 2) = some k ∧ k.joiners.get 2 = .out (some (.ok ())) ∧
    k.runner = .running ∧ k.stage = .running :=
  ⟨(started 0).run [.join 1, .joiner 1, .joiner 1, .join 2, .joiner 2], _,
    reachable_run (reachable_run .refl _) _, rfl, rfl, rfl, rfl, rfl⟩

end Life
end VmHost
