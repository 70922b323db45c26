import VmHost.Proofs.Run
import VmHost.Proofs.Thread.Join

/-!
# A thread's life goes one way

The starter, the OS thread and the joins write the published stage without a lock, and the join handle
is on its own way meanwhile. Yet the stage goes through its numbers one after the other.

* `Transition`: what a step can do, with what it relies on.
* `Kept`: where the join handle is. Only one join ever has it, so only one join marks the thread.
* `Started`: what the starter, the OS thread and the joins agree on, `Sound` included.
* `Story`: what a run has done with the stage and the handle. Every step preserves it
  (`Story.step`).
* `Adopted`: an adopted thread declines every join and does nothing else.

`lifecycle_of_run` puts them together: the stage moves forward only, the thread is live while its task
runs, and the stage becomes `joined` by the join that took the handle.
-/
namespace VmHost

namespace Joiner

/-- The join has taken the join handle, and has not marked the thread yet. -/
inductive Holds : Joiner → Prop
  | awaiting : Holds .awaiting
  | marking (panicked : Bool) : Holds (.marking panicked)

end Joiner

namespace Runner

/-- The task has begun and its end has not been published. -/
inductive IsBusy : Runner → Prop
  | running : IsBusy .running
  | ending (panicked : Bool) : IsBusy (.ending panicked)

end Runner

namespace Life

/-! ## The kinds of steps -/

inductive Transition (l : Life) : Label → Life → Prop
  | starts : l.starter = .absent → Transition l .start { l with starter := .announcing }
  | announces : l.starter = .announcing →
      Transition l .starter { l with stage := .running, starter := .spawning }
  | spawns : l.starter = .spawning →
      Transition l .starter { l with runner := .born, starter := .publishing }
  | publishes : l.starter = .publishing →
      Transition l .starter { l with native := some l.os, starter := .storing }
  | stores : l.starter = .storing →
      Transition l .starter { l with handle := true, starter := .returned }
  | refused {n} : l.starter = .spawning →
      Transition l (.refuse n) { l with starter := .withdrawing n }
  | withdraws {n} : l.starter = .withdrawing n →
      Transition l .starter { l with stage := .finished, starter := .failed n }
  | begins : l.runner = .born →
      Transition l .runner { l with native := some l.os, runner := .running }
  | stops {p} : l.runner = .running → l.attached = false →
      Transition l (.stop p) { l with runner := .ending p }
  | finishes {p} : l.runner = .ending p →
      Transition l .runner { l with stage := .finished, runner := .ended p }
  | joins {o r} : l.joiners.get o = .out r → l.isKnown = true → l.attached = false →
      Transition l (.join o) (l.setJoiner o .comparing)
  | declines {o r} : l.joiners.get o = .out r → l.isKnown = true → l.attached = true →
      Transition l (.join o) (l.setJoiner o (.out (some (.error attachedJoin))))
  | refuses {o} : l.joiners.get o = .comparing → l.native = some o →
      Transition l (.joiner o) (l.setJoiner o (.out (some (.error selfJoin))))
  | passes {o} : l.joiners.get o = .comparing → l.native ≠ some o →
      Transition l (.joiner o) (l.setJoiner o .taking)
  | takes {o} : l.joiners.get o = .taking → l.handle = true →
      Transition l (.joiner o) ({ l with handle := false }.setJoiner o .awaiting)
  | misses {o} : l.joiners.get o = .taking → l.handle = false →
      Transition l (.joiner o) (l.setJoiner o (.out (some (.ok ()))))
  | awaits {o p} : l.joiners.get o = .awaiting → l.runner = .ended p →
      Transition l (.joiner o) (l.setJoiner o (.marking p))
  | marks {o p} : l.joiners.get o = .marking p →
      Transition l (.joiner o) ({ l with stage := .joined }.setJoiner o (.out (some (.ok ()))))

variable {l k l₀ : Life} {os o : OsThread} {a : Label} {j : Joiner}

theorem starterStep_transition (h : l.starterStep = some k) : Transition l .starter k := by
  cases hp : l.starter <;> simp only [starterStep, hp, Option.some.injEq, reduceCtorEq] at h
  case announcing => exact h ▸ .announces hp
  case spawning => exact h ▸ .spawns hp
  case publishing => exact h ▸ .publishes hp
  case storing => exact h ▸ .stores hp
  case withdrawing n => exact h ▸ .withdraws hp

theorem runnerStep_transition (h : l.runnerStep = some k) : Transition l .runner k := by
  cases hp : l.runner <;> simp only [runnerStep, hp, Option.some.injEq, reduceCtorEq] at h
  case born => exact h ▸ .begins hp
  case ending p => exact h ▸ .finishes hp

theorem joinerStep_transition (h : l.joinerStep o = some k) : Transition l (.joiner o) k := by
  cases hp : l.joiners.get o <;> simp only [joinerStep, hp, Option.some.injEq, reduceCtorEq] at h
  case comparing =>
    subst h
    split
    · rename_i hn
      exact .refuses hp hn
    · rename_i hn
      exact .passes hp hn
  case taking =>
    subst h
    split
    · rename_i hh
      exact .takes hp hh
    · rename_i hh
      exact .misses hp (by simpa using hh)
  case awaiting =>
    split at h <;> cases h
    rename_i p hr
    exact .awaits hp hr
  case marking p => exact h ▸ .marks hp

theorem step_transition (h : l.step a = some k) : Transition l a k := by
  cases a with
  | start =>
    simp only [Life.step] at h
    split at h <;> cases h
    rename_i hp
    exact .starts hp
  | starter => exact starterStep_transition h
  | refuse n =>
    simp only [Life.step] at h
    split at h <;> cases h
    rename_i hp
    exact .refused hp
  | runner => exact runnerStep_transition h
  | stop p =>
    simp only [Life.step] at h
    split at h <;> cases h
    rename_i hp
    exact .stops hp.1 hp.2
  | join o =>
    simp only [Life.step] at h
    split at h <;> try cases h
    rename_i r hp
    split at h <;> cases h
    rename_i hk
    cases ha : l.attached with
    | true => exact .declines hp hk ha
    | false => exact .joins hp hk ha
  | joiner o => exact joinerStep_transition h

namespace Transition

theorem os_eq (h : Transition l a k) : k.os = l.os := by
  cases h <;> rfl

theorem attached_eq (h : Transition l a k) : k.attached = l.attached := by
  cases h <;> rfl

theorem unborn (h : Transition l a k) (hr : k.runner = .unborn) : l.runner = .unborn := by
  cases h <;> first | exact hr | cases hr

/-- A step moves no joining OS thread but its own. -/
theorem elsewhere (h : Transition l a k) (hj : a ≠ .join o) (hm : a ≠ .joiner o) :
    k.joiners.get o = l.joiners.get o := by
  cases h <;> first | rfl | exact (get_setJoiner o).trans (if_neg (by rintro rfl; contradiction))

/-- A join comes to be under way by being made, in a thread that is known. -/
theorem enters (h : Transition l a k) (ho : (k.joiners.get o).IsInside) :
    (l.joiners.get o).IsInside ∨
      a = .join o ∧ l.isKnown = true ∧ k.joiners.get o = .comparing := by
  by_cases hj : a = .join o
  · subst hj
    cases h with
    | joins _ hk => exact .inr ⟨rfl, hk, by simp⟩
    | declines => simp [Joiner.IsInside] at ho
  · by_cases hm : a = .joiner o
    · subst hm
      refine .inl ?_
      cases h with
      | refuses hp | passes hp | takes hp | misses hp | awaits hp | marks hp =>
        rw [hp]
        trivial
    · exact .inl (h.elsewhere hj hm ▸ ho)

end Transition

/-! ## The join handle -/

/-- Where the join handle is. No join has it before the start stores it, and afterwards at most one
join has it, which is the last one to have it. -/
structure Kept (l : Life) : Prop where
  early : l.starter ≠ .returned → l.handle = false ∧ l.stage ≠ .joined ∧
    ∀ o, ¬ (l.joiners.get o).Holds
  stored : l.handle = true → l.stage ≠ .joined ∧ ∀ o, ¬ (l.joiners.get o).Holds
  held : ∀ o, (l.joiners.get o).Holds → l.handle = false ∧ l.stage ≠ .joined ∧
    ∀ x, (l.joiners.get x).Holds → x = o

namespace Kept

theorem created : (created os).Kept where
  early _ := ⟨rfl, nofun, fun o ho => by rw [get_created] at ho; cases ho⟩
  stored := nofun
  held o ho := by rw [get_created] at ho; cases ho

/-- Nobody stores or takes the handle, or has marked the thread. -/
theorem same (h : l.Kept) (hh : k.handle = l.handle) (hs : k.stage = .joined → l.stage = .joined)
    (hr : l.starter = .returned → k.starter = .returned)
    (hj : ∀ o, (k.joiners.get o).Holds → (l.joiners.get o).Holds) : k.Kept where
  early he := by
    obtain ⟨h1, h2, h3⟩ := h.early (mt hr he)
    exact ⟨hh.trans h1, mt hs h2, fun o => mt (hj o) (h3 o)⟩
  stored hk := by
    obtain ⟨h2, h3⟩ := h.stored (hh ▸ hk)
    exact ⟨mt hs h2, fun o => mt (hj o) (h3 o)⟩
  held o ho := by
    obtain ⟨h1, h2, h3⟩ := h.held o (hj o ho)
    exact ⟨hh.trans h1, mt hs h2, fun x hx => h3 x (hj x hx)⟩

/-- A join that is under way goes on, with the handle in hand only if it had it before. -/
theorem moves (h : l.Kept) (hj : j.Holds → (l.joiners.get o).Holds) : (l.setJoiner o j).Kept := by
  refine h.same rfl id id fun x hx => ?_
  rw [get_setJoiner] at hx
  split at hx
  · rename_i e
    exact e ▸ hj hx
  · exact hx

/-- The join that takes the handle is the one that has it. -/
theorem taken (h : l.Kept) (hh : l.handle = true) :
    ({ l with handle := false }.setJoiner o .awaiting).Kept := by
  obtain ⟨h1, h2⟩ := h.stored hh
  have ho {x} (hx : (({ l with handle := false }.setJoiner o .awaiting).joiners.get x).Holds) :
      x = o := by
    rw [get_setJoiner] at hx
    split at hx
    · assumption
    · exact absurd hx (h2 x)
  refine ⟨fun he => ?_, nofun, fun x hx => ⟨rfl, h1, fun y hy => (ho hy).trans (ho hx).symm⟩⟩
  cases hh.symm.trans (h.early he).1

/-- The join that has the handle marks the thread, and nobody has the handle any more. -/
theorem marked (h : l.Kept) (ho : (l.joiners.get o).Holds) :
    ({ l with stage := .joined }.setJoiner o (.out (some (.ok ())))).Kept := by
  obtain ⟨h1, -, h3⟩ := h.held o ho
  have hn (x) :
      ¬ (({ l with stage := .joined }.setJoiner o (.out (some (.ok ())))).joiners.get x).Holds := by
    rw [get_setJoiner]
    split
    · nofun
    · exact fun hx => ‹x ≠ o› (h3 x hx)
  refine ⟨fun he => ?_, fun hk => ?_, fun x hx => absurd hx (hn x)⟩
  · exact absurd ho ((h.early he).2.2 o)
  · cases h1.symm.trans hk

theorem step (h : l.Kept) (ht : Transition l a k) : k.Kept := by
  cases ht with
  | stores hs =>
    obtain ⟨-, h2, h3⟩ := h.early (by simp [hs])
    exact ⟨fun he => absurd rfl he, fun _ => ⟨h2, h3⟩, fun o ho => absurd ho (h3 o)⟩
  | takes _ hh => exact h.taken hh
  | marks hp => exact h.marked (by rw [hp]; exact .marking _)
  | joins | declines | refuses | passes | misses => exact h.moves nofun
  | awaits hp => exact h.moves fun _ => by rw [hp]; exact .awaiting
  | starts hp | announces hp | spawns hp | publishes hp | refused hp | withdraws hp =>
    exact h.same rfl (by simp) (by simp [hp]) fun _ => id
  | begins | stops | finishes => exact h.same rfl (by simp) id fun _ => id

end Kept

/-! ## The order of a life -/

/-- What the parties of a started thread agree on, the join handle apart. -/
structure Started (l : Life) : Prop extends Sound l where
  attached : l.attached = false
  fresh : l.stage = .created ↔ l.starter = .absent ∨ l.starter = .announcing
  unborn : l.runner = .unborn → (l.IsOver ↔ ∃ errno, l.starter = .failed errno)
  native : l.starter = .storing ∨ l.isKnown = true → l.native = some l.os
  known : ∀ o, (l.joiners.get o).IsInside → l.isKnown = true
  /-- The thread itself gets no further than the comparison. -/
  self : (l.joiners.get l.os).IsInside → l.joiners.get l.os = .comparing

theorem isKnown_iff : l.isKnown = true ↔
    l.starter = .returned ∨ l.runner ≠ .unborn ∧ l.runner ≠ .born := by
  simp only [isKnown, Bool.or_eq_true, decide_eq_true_eq]
  cases l.runner <;> simp

namespace Started

theorem created : (created os).Started where
  toSound := .created
  attached := rfl
  fresh := by simp [Life.created]
  unborn _ := by simp [Life.created, IsOver]
  native := by simp [isKnown_iff, Life.created]
  known o ho := by simp [Joiner.IsInside] at ho
  self ho := by simp [Joiner.IsInside] at ho

theorem unborn_of (h : l.Started) (hs : ¬ l.starter.HasSpawned) : l.runner = .unborn :=
  h.toSound.unborn hs

theorem knows (h : l.Started) (ht : Transition l a k) (hk : l.isKnown = true) :
    k.isKnown = true := by
  have hb := h.born_of_isKnown hk
  rw [isKnown_iff] at hk ⊢
  cases ht with
  | spawns hp => exact absurd (h.unborn_of (by simp [hp, Starter.HasSpawned])) hb
  | _ => simp_all [setJoiner]

theorem fresh_step (h : l.Started) (ht : Transition l a k) :
    k.stage = .created ↔ k.starter = .absent ∨ k.starter = .announcing := by
  have hf := h.fresh
  -- Whoever ends or marks the thread has seen it begin, so the start is past the announcement.
  cases ht with
  | finishes hp =>
    have := h.spawned.mp (by simp [hp])
    cases hs : l.starter <;> simp_all [Starter.HasSpawned]
  | marks hp =>
    have := h.spawned.mp (h.marking _ _ hp).born
    cases hs : l.starter <;> simp_all [Starter.HasSpawned, setJoiner]
  | _ => simp_all [setJoiner]

theorem unborn_step (h : l.Started) (ht : Transition l a k) (hr : k.runner = .unborn) :
    k.IsOver ↔ ∃ errno, k.starter = .failed errno := by
  have ho := h.unborn (ht.unborn hr)
  have hf := h.fresh
  cases ht with
  | marks hp => exact absurd hr (h.marking _ _ hp).born
  | _ => simp_all [setJoiner, IsOver]

theorem native_step (h : l.Started) (ht : Transition l a k)
    (hk : k.starter = .storing ∨ k.isKnown = true) : k.native = some k.os := by
  have hn := h.native
  rw [isKnown_iff] at hk hn
  cases ht with
  | publishes | begins => rfl
  | _ => simp_all [setJoiner]

theorem known_step (h : l.Started) (ht : Transition l a k) (ho : (k.joiners.get o).IsInside) :
    k.isKnown = true := by
  rcases ht.enters ho with hi | ⟨-, hk, -⟩
  · exact h.knows ht (h.known o hi)
  · exact h.knows ht hk

theorem self_step (h : l.Started) (ht : Transition l a k)
    (ho : (k.joiners.get l.os).IsInside) : k.joiners.get l.os = .comparing := by
  rcases ht.enters ho with hi | ⟨-, -, hc⟩
  · -- The thread wrote its own number before its task could join anything, so it does not pass.
    have hc := h.self hi
    have hn := h.native (.inr (h.known _ hi))
    by_cases hm : a = .joiner l.os
    · subst hm
      cases ht with
      | refuses => simp [Joiner.IsInside] at ho
      | passes _ he => exact absurd hn he
      | takes hp | misses hp | awaits hp | marks hp => cases hp.symm.trans hc
    · by_cases hj : a = .join l.os
      · subst hj
        cases ht with
        | joins hp | declines hp => cases hp.symm.trans hc
      · exact (ht.elsewhere hj hm).trans hc
  · exact hc

theorem step (h : l.Started) (hs : l.step a = some k) : k.Started where
  toSound := h.toSound.step hs
  attached := (step_transition hs).attached_eq.trans h.attached
  fresh := h.fresh_step (step_transition hs)
  unborn := h.unborn_step (step_transition hs)
  native := h.native_step (step_transition hs)
  known _ := h.known_step (step_transition hs)
  self ho := by
    rw [(step_transition hs).os_eq] at ho ⊢
    exact h.self_step (step_transition hs) ho

/-- The published stage says running for as long as the task has begun and not ended. -/
theorem stage_running (h : l.Started) (hr : l.runner.IsBusy) : l.stage = .running := by
  have hb : l.runner ≠ .unborn := by intro he; rw [he] at hr; cases hr
  have ho : ¬ l.IsOver := mt (h.tells hb).mp (by rintro ⟨p, hp⟩; rw [hp] at hr; cases hr)
  have hs := h.spawned.mp hb
  have hf := h.fresh
  cases hl : l.stage with
  | created => rcases hf.mp hl with he | he <;> simp [he, Starter.HasSpawned] at hs
  | running => rfl
  | finished => exact absurd (.inl hl) ho
  | joined => exact absurd (.inr hl) ho

theorem stage_finished (h : l.Started) (hk : l.Kept) {p : Bool}
    (hp : l.joiners.get o = .marking p) : l.stage = .finished := by
  have he := h.marking o p hp
  have hn := (hk.held o (by rw [hp]; exact .marking p)).2.1
  exact ((h.tells he.born).mpr he).resolve_right hn

/-- A step leaves the published stage alone, or moves it on by one. -/
theorem stage_step (h : l.Started) (hk : l.Kept) (ht : Transition l a k) :
    k.stage = l.stage ∨ k.stage.number = l.stage.number + 1 := by
  cases ht with
  | announces hp =>
    rw [h.fresh.mpr (.inr hp)]
    exact .inr rfl
  | withdraws hp =>
    have hu := h.unborn_of (by simp [hp, Starter.HasSpawned])
    have hf := h.fresh
    have ho := h.unborn hu
    cases hl : l.stage <;> simp_all [IsOver, Stage.number]
  | finishes hp =>
    rw [h.stage_running (by rw [hp]; exact .ending _)]
    exact .inr rfl
  | marks hp =>
    rw [h.stage_finished hk hp]
    exact .inr rfl
  | _ => exact .inl rfl

end Started

/-! ## What a run has done with the join handle -/

/-- The join that an OS thread is in takes the join handle. -/
structure Takes (o : OsThread) (m : Machine.Moment Life Label) : Prop where
  label : m.label = .joiner o
  before : m.before.handle = true
  after : m.after.handle = false

/-- The join that an OS thread has made last has taken the join handle. -/
def HasTaken (past : List (Machine.Moment Life Label)) (o : OsThread) : Prop :=
  ∃ later m earlier, past = later ++ m :: earlier ∧ Takes o m ∧ ∀ x ∈ later, x.label ≠ .join o

/-- How often the join handle has been taken. -/
def taken (past : List (Machine.Moment Life Label)) : Nat :=
  past.countP fun m => m.before.handle && !m.after.handle

/-- What a run has done so far, in the light of where it has come. -/
structure Story (past : List (Machine.Moment Life Label)) (l : Life) : Prop where
  started : l.Started
  kept : l.Kept
  onward : ∀ m ∈ past, m.before.stage.number ≤ l.stage.number
  unborn : l.runner = .unborn → ∀ m ∈ past, m.before.runner = .unborn
  held : ∀ o, (l.joiners.get o).Holds → HasTaken past o
  untaken : l.handle = true ∨ l.starter ≠ .returned → taken past = 0
  once : taken past ≤ 1

variable {past : List (Machine.Moment Life Label)} {m : Machine.Moment Life Label}

namespace HasTaken

theorem skip (h : HasTaken past o) (hm : m.label ≠ .join o) : HasTaken (m :: past) o := by
  obtain ⟨later, x, earlier, rfl, hx, hl⟩ := h
  exact ⟨m :: later, x, earlier, rfl, hx, List.forall_mem_cons.mpr ⟨hm, hl⟩⟩

end HasTaken

namespace Story

theorem created : Story [] (created os) where
  started := .created
  kept := .created
  onward := List.forall_mem_nil _
  unborn _ := List.forall_mem_nil _
  held o ho := by rw [get_created] at ho; cases ho
  untaken _ := rfl
  once := Nat.zero_le 1

theorem held_step (h : Story past l) (ht : Transition l a k) (ho : (k.joiners.get o).Holds) :
    HasTaken (⟨l, a, k⟩ :: past) o := by
  by_cases hj : a = .join o
  · subst hj
    cases ht <;> simp at ho <;> cases ho
  · by_cases hm : a = .joiner o
    · subst hm
      cases ht with
      | takes _ hh => exact ⟨[], _, past, rfl, ⟨rfl, hh, rfl⟩, List.forall_mem_nil _⟩
      | awaits hp => exact (h.held o (by rw [hp]; exact .awaiting)).skip hj
      | _ => simp at ho; cases ho
    · exact (h.held o (ht.elsewhere hj hm ▸ ho)).skip hj

theorem taken_step (h : Story past l) (ht : Transition l a k) :
    (k.handle = true ∨ k.starter ≠ .returned → taken (⟨l, a, k⟩ :: past) = 0) ∧
      taken (⟨l, a, k⟩ :: past) ≤ 1 := by
  have hu := h.untaken
  have ho := h.once
  unfold taken at *
  rw [List.countP_cons]
  cases ht with
  | takes _ hh =>
    -- There is a handle to take only once the start has stored it.
    have hr : l.starter = .returned := Decidable.not_not.mp fun hr => by
      cases hh.symm.trans (h.kept.early hr).1
    simp [hu (.inl hh), hh, hr, setJoiner]
  | _ => simp_all [setJoiner]

theorem step (h : Story past l) (hs : l.step a = some k) : Story (⟨l, a, k⟩ :: past) k where
  started := h.started.step hs
  kept := h.kept.step (step_transition hs)
  onward := by
    have hk : l.stage.number ≤ k.stage.number := by
      rcases h.started.stage_step h.kept (step_transition hs) with e | e
      · exact Nat.le_of_eq (by rw [e])
      · exact Nat.le_of_lt (Nat.lt_of_lt_of_eq (Nat.lt_succ_self _) e.symm)
    exact List.forall_mem_cons.mpr ⟨hk, fun m hm => Nat.le_trans (h.onward m hm) hk⟩
  unborn hr := by
    have hl := (step_transition hs).unborn hr
    exact List.forall_mem_cons.mpr ⟨hl, h.unborn hl⟩
  held _ := h.held_step (step_transition hs)
  untaken := (h.taken_step (step_transition hs)).1
  once := (h.taken_step (step_transition hs)).2

end Story

theorem run_story (h : Machine.Run Life.step (Life.created os) past l) : Story past l := by
  induction h with
  | start => exact .created
  | step a _ hs ih => exact ih.step hs

/-! ## Adopted threads -/

/-- What holds of a thread that was adopted, whoever tries to join it. -/
structure Adopted (l : Life) : Prop where
  attached : l.attached = true
  stage : l.stage = .running
  starter : l.starter = .returned
  runner : l.runner = .running
  handle : l.handle = false
  outside : ∀ o, ∃ r, l.joiners.get o = .out r

namespace Adopted

theorem of_adopted : (adopted os).Adopted :=
  ⟨rfl, rfl, rfl, rfl, rfl, fun o => ⟨none, Row.get_empty o⟩⟩

/-- A join is all that can happen, and it is declined. -/
theorem join_eq (h : l.Adopted) (o : OsThread) :
    l.step (.join o) = some (l.setJoiner o (.out (some (.error attachedJoin)))) := by
  obtain ⟨r, hr⟩ := h.outside o
  simp [Life.step, hr, isKnown, h.starter, h.attached]

theorem step (h : l.Adopted) (hs : l.step a = some k) : k.Adopted := by
  obtain ⟨h1, h2, h3, h4, h5, h6⟩ := h
  cases step_transition hs with
  | declines =>
    refine ⟨h1, h2, h3, h4, h5, fun x => ?_⟩
    rw [get_setJoiner]
    split
    · exact ⟨_, rfl⟩
    · exact h6 x
  | joins _ _ ha | stops _ ha => cases h1.symm.trans ha
  | starts hp | announces hp | spawns hp | publishes hp | stores hp | refused hp | withdraws hp =>
    cases h3.symm.trans hp
  | begins hp | finishes hp => cases h4.symm.trans hp
  | refuses hp | passes hp | takes hp | misses hp | awaits hp | marks hp =>
    obtain ⟨r, hr⟩ := h6 _
    cases hr.symm.trans hp

end Adopted

theorem run_adopted (h : Machine.Run Life.step (Life.adopted os) past l) : l.Adopted := by
  induction h with
  | start => exact .of_adopted
  | step a _ hs ih => exact ih.step hs

/-! ## The lifecycle -/

/-- The course of a thread's life. -/
structure Lifecycle (past : List (Machine.Moment Life Label)) (l : Life) : Prop where
  /-- Every step leaves the published stage alone, or moves it on by one. -/
  forward : ∀ m ∈ past, m.after.stage = m.before.stage ∨
    m.after.stage.number = m.before.stage.number + 1
  onward : ∀ m ∈ past, m.before.stage.number ≤ l.stage.number
  live : l.runner.IsBusy → l.stage.isLive = true
  /-- Only a join marks the thread, once it has finished, and it is a join that has taken the
  handle. -/
  joined : ∀ later m earlier, past = later ++ m :: earlier →
    m.after.stage = .joined → m.before.stage ≠ .joined →
      m.before.stage = .finished ∧ ∃ o, m.label = .joiner o ∧ HasTaken earlier o
  once : taken past ≤ 1
  /-- An adopted thread cannot be joined, and the attempt changes nothing but its outcome. -/
  attached : l.attached = true → ∀ o,
    l.step (.join o) = some (l.setJoiner o (.out (some (.error attachedJoin))))
  /-- A started thread that joins itself comes to compare itself with the thread, -/
  selfJoins : l.attached = false → l.runner = .running → ¬ (l.joiners.get l.os).IsInside →
    l.step (.join l.os) = some (l.setJoiner l.os .comparing)
  /-- which is the end of the join, and changes nothing but its outcome. -/
  selfRefused : (l.joiners.get l.os).IsInside →
    l.step (.joiner l.os) = some (l.setJoiner l.os (.out (some (.error selfJoin))))
  failed : ∀ errno, l.starter = .failed errno →
    l.stage = .finished ∧ l.runner = .unborn ∧ ∀ m ∈ past, m.before.runner = .unborn

theorem Started.join_self (h : l.Started) (hr : l.runner = .running)
    (hi : ¬ (l.joiners.get l.os).IsInside) :
    l.step (.join l.os) = some (l.setJoiner l.os .comparing) := by
  cases hj : l.joiners.get l.os with
  | out r => simp [Life.step, hj, isKnown, hr, h.attached]
  | _ => simp [hj, Joiner.IsInside] at hi

theorem Started.refuse_self (h : l.Started) (hi : (l.joiners.get l.os).IsInside) :
    l.step (.joiner l.os) = some (l.setJoiner l.os (.out (some (.error selfJoin)))) := by
  simp [Life.step, joinerStep, h.self hi, h.native (.inr (h.known _ hi))]

/-- The step that marks a thread belongs to the join that has taken the handle. -/
theorem Story.marker (h : Story past l) (ht : Transition l a k) (hk : k.stage = .joined)
    (hl : l.stage ≠ .joined) : l.stage = .finished ∧ ∃ o, a = .joiner o ∧ HasTaken past o := by
  cases ht with
  | marks hp =>
    refine ⟨h.started.stage_finished h.kept hp, _, rfl, h.held _ ?_⟩
    rw [hp]
    exact .marking _
  | announces | withdraws | finishes => cases hk
  | _ => exact absurd hk hl

theorem Story.failed (h : Story past l) {errno : Int} (hf : l.starter = .failed errno) :
    l.stage = .finished ∧ l.runner = .unborn ∧ ∀ m ∈ past, m.before.runner = .unborn := by
  have hu := h.started.unborn_of (by simp [hf, Starter.HasSpawned])
  have ho : l.IsOver := (h.started.unborn hu).mpr ⟨errno, hf⟩
  exact ⟨ho.resolve_right (h.kept.early (by simp [hf])).2.1, hu, h.unborn hu⟩

theorem lifecycle_created (h : Machine.Run Life.step (Life.created os) past l) :
    Lifecycle past l where
  forward m hm := by
    obtain ⟨earlier, hr, hs⟩ := h.of_mem hm
    have hb := run_story hr
    exact hb.started.stage_step hb.kept (step_transition hs)
  onward := (run_story h).onward
  live hr := by
    rw [(run_story h).started.stage_running hr]
    rfl
  joined later m earlier e ha hb := by
    subst e
    obtain ⟨hr, hs⟩ := h.split
    exact (run_story hr).marker (step_transition hs) ha hb
  once := (run_story h).once
  attached ha := by cases (run_story h).started.attached.symm.trans ha
  selfJoins _ := (run_story h).started.join_self
  selfRefused := (run_story h).started.refuse_self
  failed _ := (run_story h).failed

theorem lifecycle_adopted (h : Machine.Run Life.step (Life.adopted os) past l) :
    Lifecycle past l := by
  have hl := run_adopted h
  have hp (m) (hm : m ∈ past) : m.before.Adopted ∧ m.after.Adopted := by
    obtain ⟨earlier, hr, hs⟩ := h.of_mem hm
    exact ⟨run_adopted hr, (run_adopted hr).step hs⟩
  refine ⟨fun m hm => ?_, fun m hm => ?_, fun _ => ?_, fun later m earlier e ha _ => ?_, ?_,
    fun _ => hl.join_eq, fun ha => ?_, fun hi => ?_, fun errno hf => ?_⟩
  · exact .inl ((hp m hm).2.stage.trans (hp m hm).1.stage.symm)
  · exact Nat.le_of_eq (by rw [(hp m hm).1.stage, hl.stage])
  · rw [hl.stage]
    rfl
  · cases ha.symm.trans (hp m (by simp [e])).2.stage
  · have h0 : taken past = 0 :=
      List.countP_eq_zero.mpr fun m hm => by simp [(hp m hm).1.handle]
    exact h0 ▸ Nat.zero_le 1
  · cases hl.attached.symm.trans ha
  · obtain ⟨r, hr⟩ := hl.outside l.os
    rw [hr] at hi
    exact hi.elim
  · cases hl.starter.symm.trans hf

/-- **The life of a thread goes one way**, whether it is started or adopted and whoever joins it. -/
theorem lifecycle_of_run (h₀ : l₀ = Life.created os ∨ l₀ = Life.adopted os)
    (h : Machine.Run Life.step l₀ past l) : Lifecycle past l := by
  rcases h₀ with rfl | rfl
  · exact lifecycle_created h
  · exact lifecycle_adopted h

/-- A thread that joins itself is joined by two others and panics; an adopted thread is joined by
itself and by another one; the operating system refuses an OS thread. -/
theorem lifecycle_runs :
    (∃ past l, Machine.Run Life.step (Life.created 0) past l ∧ l.stage = .joined ∧
      taken past = 1 ∧ Lifecycle past l) ∧
    (∃ past l, Machine.Run Life.step (Life.adopted 0) past l ∧ past.length = 2 ∧
      Lifecycle past l) ∧
    ∃ past l, Machine.Run Life.step (Life.created 0) past l ∧ l.starter = .failed 11 ∧
      Lifecycle past l := by
  refine ⟨?_, ?_, ?_⟩
  · obtain ⟨past, l, h, hp⟩ := Machine.exists_run Life.step (Life.created 0)
      (fun past l => l.stage = .joined ∧ taken past = 1)
      [.start, .starter, .starter, .runner, .join 0, .joiner 0, .starter, .starter, .join 1, .join 2,
        .joiner 1, .joiner 2, .joiner 1, .joiner 2, .stop true, .runner, .joiner 1, .joiner 1]
      (by decide)
    simp only [decide_eq_true_eq] at hp
    exact ⟨past, l, h, hp.1, hp.2, lifecycle_of_run (.inl rfl) h⟩
  · obtain ⟨past, l, h, hp⟩ := Machine.exists_run Life.step (Life.adopted 0)
      (fun past _ => past.length = 2) [.join 0, .join 1] (by decide)
    exact ⟨past, l, h, of_decide_eq_true hp, lifecycle_of_run (.inr rfl) h⟩
  · obtain ⟨past, l, h, hp⟩ := Machine.exists_run Life.step (Life.created 0)
      (fun _ l => l.starter = .failed 11) [.start, .starter, .refuse 11, .starter] (by decide)
    exact ⟨past, l, h, of_decide_eq_true hp, lifecycle_of_run (.inl rfl) h⟩

end Life
end VmHost
