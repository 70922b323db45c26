import Mathlib.Data.List.Nodup
import VmHost.Proofs.Fault.Keeping
import VmHost.Proofs.Run

/-!
# No registration is used after it was freed

An activation counts itself in before it loads the published registration, and out when it needs that
no more. Removing a handler unpublishes the registration before it waits for the counter. So once the
counter is zero, nobody uses the registration: whoever counts itself in later finds it unpublished.

`Reclamation` says what this comes to in a state, and `Reachable.reclamation` that it holds in every
state that can be reached. `Accounts` is the way of the counter, step by step. A removal waits as long as
the counter says so and no longer: `step_draining`, `freed_of_draining`.
-/
namespace VmHost.Fault

open State

variable {s s' : State} {l : Label} {o : OsThread} {a : Activation} {rest : List Activation} {r : Nat}
  {answer : Answer}

/-- What a step of the innermost activation on an OS thread does to the counter. -/
inductive Accounts (s : State) (o : OsThread) (a : Activation) (rest : List Activation)
    (s' : State) : Prop
  /-- It counts itself in. -/
  | enters : a.doing = .entering →
      s'.activations.get o = { a with doing := .loading } :: rest →
      s'.inFlight = s.inFlight + 1 → Accounts s o a rest s'
  /-- It goes on, and is counted in before and after. -/
  | goes {d : Doing} : a.doing.isCounted = true → ¬ a.doing.IsExit → d.isCounted = true →
      s'.activations.get o = { a with doing := d } :: rest →
      s'.inFlight = s.inFlight → Accounts s o a rest s'
  /-- It counts itself out, at one of the three exits; then it has ended, or hands the fault on. -/
  | exits : a.doing.IsExit →
      s'.activations.get o = rest ∨
        (∃ was, s'.activations.get o = { a with doing := .passing was } :: rest) →
      s'.inFlight + 1 = s.inFlight → Accounts s o a rest s'
  /-- It hands the fault on, perhaps to the same handler once more. -/
  | passes {was : Option Disposition} : a.doing = .passing was →
      s'.activations.get o = rest ∨
        s'.activations.get o = { a with doing := .entering } :: rest →
      s'.inFlight = s.inFlight → Accounts s o a rest s'
  /-- It ends the process. -/
  | stops : s'.ended.isSome = true → s'.activations = s.activations →
      s'.inFlight = s.inFlight → Accounts s o a rest s'

theorem Tended.accounts (ht : Tended s) (h : s.step (.handle o) = some s') :
    ∃ a rest, s.activations.get o = a :: rest ∧ Accounts s o a rest s' := by
  cases step_transition h with
  | @goes _ a rest t d ha hg =>
    have hat : (t.goOn o a d).activations.get o = { a with doing := d } :: rest := by
      rw [get_goOn, if_pos rfl, hg.alike.activations, ha, List.drop_one, List.tail_cons]
    refine ⟨a, rest, ha, ?_⟩
    cases hg with
    | enters hd => exact .enters hd hat rfl
    | leaves hd =>
      have hx : a.doing.IsExit := hd ▸ .leaving ..
      exact .exits hx (.inr ⟨_, hat⟩) (Nat.succ_pred_eq_of_pos (ht.inFlight_pos ha hx.isCounted))
    | recurs hd => exact .passes hd (.inr hat) rfl
    | finds hd | misses hd | resumes hd | reports hd | declines hd | dumps hd | consults hd =>
      refine .goes ?_ ?_ rfl hat rfl <;> rw [hd]
      · rfl
      · nofun
  | @ends _ a rest t c e ha he =>
    have hat : (t.conclude o a c e).activations.get o = rest := by
      rw [get_conclude, if_pos rfl, he.alike.activations, ha, List.drop_one, List.tail_cons]
    refine ⟨a, rest, ha, ?_⟩
    cases he with
    | dismissed hd | resumed hd =>
      have hx : a.doing.IsExit := by rw [hd]; constructor
      exact .exits hx (.inl hat) (Nat.succ_pred_eq_of_pos (ht.inFlight_pos ha hx.isCounted))
    | defaults hd | chains hd => exact .passes hd (.inl hat) rfl
  | stops hs =>
    cases hs with
    | breaks ha | ignores ha => exact ⟨_, _, ha, .stops rfl rfl rfl⟩
  | moves hm => cases hm

/-- Only activations change the counter. -/
theorem Transition.inFlight (h : Transition s l s') (hl : ∀ o, l ≠ .handle o) :
    s'.inFlight = s.inFlight := by
  cases h with
  | alters hm => cases hm <;> rfl
  | goes | ends => exact absurd rfl (hl _)
  | moves | takes | avoids | stops | violates => rfl

/-- A step frees at most one registration, which nobody uses and which was not freed before. -/
theorem Tended.frees (ht : Tended s) (h : s.step l = some s') :
    s'.freed = s.freed ∨ ∃ r, s.Keeps r ∧ (∀ o, ¬ s.Uses o r) ∧ s'.freed = r :: s.freed := by
  cases step_transition h with
  | alters hm =>
    cases hm with
    | frees hp =>
      have hf := (ht.ahead hp trivial).fits
      exact .inr ⟨_, hf.2.1, hf.2.2, rfl⟩
    | _ => exact .inl rfl
  | goes ha hg => exact .inl hg.alike.freed
  | ends ha he => exact .inl he.alike.freed
  | moves | takes | avoids | stops | violates => exact .inl rfl

/-- Registrations are freed when nobody uses them, and the counter tells. -/
structure Reclamation (s : State) : Prop where
  /-- From its load of the published registration until it counts itself out, an activation refers to
  a registration that has not been freed. -/
  used : ∀ o, ∀ a ∈ s.activations.get o, ∀ r, a.doing.registration? = some r →
    r < s.registrations.length ∧ r ∉ s.freed
  /-- The counter is the number of activations that have counted themselves in and not yet out. -/
  counted : s.inFlight = s.counted
  /-- So it is since each activation counts itself in once, and out once at whichever exit. -/
  accounts : ∀ o s', s.step (.handle o) = some s' →
    ∃ a rest, s.activations.get o = a :: rest ∧ Accounts s o a rest s'
  /-- Nobody else changes the counter. -/
  others : ∀ l s', s.step l = some s' → (∀ o, l ≠ .handle o) → s'.inFlight = s.inFlight
  /-- What is freed was published, was not freed before, and is not in use. -/
  frees : ∀ l s', s.step l = some s' → s'.freed = s.freed ∨
    ∃ r, s.Keeps r ∧ (∀ o, ¬ s.Uses o r) ∧ s'.freed = r :: s.freed
  /-- Nothing is freed twice. -/
  once : ∀ r, s.freed.count r ≤ 1
  /-- Whenever nobody has the system mutex, every registration has been freed once, but for the one
  that is published. -/
  settled : s.lock.holder = none → ∀ r < s.registrations.length,
    s.freed.count r = if s.active = some r then 0 else 1

/-- **No registration is used after it was freed**, whatever faults are taken, whatever handlers are
installed and removed, and in whichever order the steps come. -/
theorem State.Reachable.reclamation {actions : Kind → Disposition} {disk : Disk}
    {time : Snapshot.Time} {memory : Memory}
    (h : State.Reachable (.start actions disk time memory) s) : Reclamation s where
  used o a ha r hr := h.tended.stored.used o r ⟨a, ha, hr⟩
  counted := h.tended.counted
  accounts _ _ := h.tended.accounts
  others _ _ hs := (step_transition hs).inFlight
  frees _ _ := h.tended.frees
  once := List.nodup_iff_count_le_one.mp h.tended.stored.nodup
  settled hn r hr := by
    have hs := h.tended.stored
    rw [inside, hn] at hs
    split
    · rename_i ha
      exact List.count_eq_zero_of_not_mem (hs.active r ha).2
    · rename_i ha
      refine List.count_eq_one_of_mem hs.nodup ?_
      rcases hs.retired r hr with hf | he | hm
      · exact hf
      · exact absurd he ha
      · cases hm

/-! ## The end of a removal -/

theorem step_manage (he : s.ended = none) (hv : s.violation = none) :
    s.step (.manage o) = s.manage o := by
  simp [State.step, he, hv]

/-- A removal goes on from its wait exactly if no activation is counted. -/
theorem step_draining (he : s.ended = none) (hv : s.violation = none)
    (hp : s.managers.get o = .draining r answer) :
    s.step (.manage o) = if s.inFlight = 0 then some (s.moveTo o (.freeing r answer)) else none := by
  simp only [step_manage he hv, State.manage, hp]

theorem step_freeing (he : s.ended = none) (hv : s.violation = none)
    (hp : s.managers.get o = .freeing r answer) :
    s.step (.manage o) = some ({ s with freed := r :: s.freed }.moveTo o (.unlocking answer)) := by
  simp only [step_manage he hv, State.manage, hp]

/-- Two steps after its wait, a removal has freed the registration. -/
theorem freed_of_draining (he : s.ended = none) (hv : s.violation = none)
    (hp : s.managers.get o = .draining r answer) (hn : s.inFlight = 0) :
    ∃ t u, s.step (.manage o) = some t ∧ t.step (.manage o) = some u ∧ u.freed = r :: s.freed := by
  have ht := step_draining he hv hp
  rw [if_pos hn] at ht
  have hf : (s.moveTo o (.freeing r answer)).managers.get o = .freeing r answer := by
    rw [get_moveTo, if_pos rfl]
  exact ⟨_, _, ht, step_freeing he hv hf, rfl⟩

/-! ### A handler that is removed while it runs -/

/-- Both signals end the process, and nothing can be read. -/
def bare : State := .start (fun _ => .default) ⟨[], []⟩ ⟨0, 0⟩ .none

/-- Thread 0 installs a handler. Thread 1 takes a fault, and another one while the handler runs; that
one has counted itself in when thread 0 unpublishes the registration, and finds none. Thread 0 has put
the actions back and waits. -/
def removal : List Label :=
  [.ask 0 (.install 1 (fun _ => (⟨.none, .none, .none, .none⟩, .resume)) none 16)] ++
    List.replicate 8 (.manage 0) ++
    [.fault 1 .segv 0 .zero, .handle 1, .handle 1, .fault 1 .bus 0 .zero, .handle 1,
      .ask 0 (.uninstall 1)] ++
    List.replicate 5 (.manage 0) ++ [.handle 1]

/-- Thread 1 is done with both faults, and thread 0 with the removal. -/
def retirement : List Label := List.replicate 3 (.handle 1) ++ List.replicate 3 (.manage 0)

theorem reachable_of_run {s₀ : State} {past : List (Machine.Moment State Label)}
    (h : Machine.Run State.step s₀ past s) : State.Reachable s₀ s := by
  induction h with
  | start => exact .refl
  | step l _ hs ih => exact .step l ih hs

/-- A handler still runs with a registration that has been unpublished, which is freed when it is done. -/
theorem reclamation_removal : ∃ past s, Machine.Run State.step bare past s ∧
    (∃ m ∈ past, m.before.lock.holder = some 0 ∧ m.before.active = none ∧ m.before.inFlight = 2 ∧
      (m.before.activations.get 1).map (·.doing) = [.dismissing, .handling 0]) ∧
    State.Reachable bare s ∧ s.lock.holder = none ∧ s.freed = [0] ∧ s.inFlight = 0 ∧
    s.outcomes.map (·.ending) = [.resumed, .dismissed] ∧ Reclamation s := by
  obtain ⟨past, s, h, hp⟩ := Machine.exists_run State.step bare
    (fun past s => past.any (fun m => m.before.lock.holder = some 0 ∧ m.before.active = none ∧
        m.before.inFlight = 2 ∧
        (m.before.activations.get 1).map (·.doing) = [.dismissing, .handling 0]) ∧
      s.lock.holder = none ∧ s.freed = [0] ∧ s.inFlight = 0 ∧
      s.outcomes.map (·.ending) = [.resumed, .dismissed])
    (removal ++ retirement) (by decide +kernel)
  simp only [decide_eq_true_eq, List.any_eq_true] at hp
  obtain ⟨hm, hl, hf, hn, ho⟩ := hp
  have hr := reachable_of_run h
  exact ⟨past, s, h, hm, hr, hl, hf, hn, ho, State.Reachable.reclamation hr⟩

end VmHost.Fault
