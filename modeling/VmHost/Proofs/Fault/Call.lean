import VmHost.Proofs.Fault.Keeping

/-!
# A job from its beginning to its end

While nobody else does anything and no fault is taken, a job runs through: it takes the system mutex,
looks at the published registration, and publishes one (`State.register`), removes it
(`State.unregister`) or leaves it alone. What a call comes to is told by what it decides to do.

* `call_refrains`, `call_registers`, `call_unregisters`: the answer and the state after a call.
* `Tended.call`: a call is a sequence of steps, and so keeps registrations as steps do.
-/
namespace VmHost.Fault

/-- What is replaced for one kind and then for the other has been replaced altogether. -/
theorem Kind.replace_both {α : Type} (f g : Kind → α) :
    (fun q => if q = .bus then f .bus else if q = .segv then f .segv else g q) = f := by
  funext q
  cases q <;> rfl

/-- The registration with the action of a signal recorded. -/
def Registration.recording (x : Registration) (k : Kind) (d : Disposition) : Registration :=
  { x with previous := fun q => if q = k then some d else x.previous q }

namespace State

/-- Publishes a registration that records the actions of both signals, which look for it now. -/
def register (s : State) (x : Registration) : State :=
  { s with
    registrations := s.registrations ++ [{ x with previous := fun k => some (s.actions k) }]
    active := some s.registrations.length
    actions := fun _ => .ours }

/-- Removes a registration and puts the actions back that it has recorded. -/
def unregister (s : State) (r : Nat) : State :=
  { s with
    active := none
    actions := fun k => (s.recorded? r k).getD (s.actions k)
    freed := r :: s.freed }

/-- Gives the system mutex to an OS thread. -/
def heldBy (s : State) (o : OsThread) : State := { s with lock := ⟨some o⟩ }

def publish (s : State) (x : Registration) : State :=
  { s with registrations := s.registrations ++ [x], active := some s.registrations.length }

/-- Puts the recorded action of a signal back, if there is one. -/
def putBack (s : State) (r : Nat) (k : Kind) : State :=
  match s.recorded? r k with
  | some was => s.setAction k was
  | none => s

end State

open State

/-- Nobody has a job, no fault is being handled, and the process goes on. -/
structure Resting (s : State) : Prop where
  lock : s.lock = .free
  inFlight : s.inFlight = 0
  idle : ∀ o, s.activations.get o = []
  out : ∀ o, ∃ answer, s.managers.get o = .out answer
  ended : s.ended = none
  violation : s.violation = none

/-- No fault is being handled on an OS thread, and the process goes on. -/
structure Undisturbed (s : State) (o : OsThread) : Prop where
  idle : s.activations.get o = []
  ended : s.ended = none
  violation : s.violation = none

/-! ## Single steps -/

variable {s t : State} {o : OsThread} {m m' : Managing} {j : Job} {r : Nat} {x : Registration}
  {k : Kind} {d : Disposition} {answer : Answer} {n : Nat}

@[simp] theorem moveTo_moveTo : (s.moveTo o m).moveTo o m' = s.moveTo o m' := by
  simp only [moveTo, Row.set_set]

theorem manage_locking (h : s.lock = .free) :
    (s.moveTo o (.locking j)).manage o = some ((s.heldBy o).moveTo o (.checking j)) := by
  have hl : s.lock.take o = .taken ⟨some o⟩ := by rw [h]; rfl
  simp only [manage, get_moveTo, if_pos, lock_moveTo, hl]
  exact congrArg some (moveTo_moveTo (s := s.heldBy o))

theorem manage_checking :
    (s.moveTo o (.checking j)).manage o = some (s.moveTo o (s.decide j)) := by
  simp only [manage, get_moveTo, if_pos, moveTo_moveTo]
  rfl

theorem manage_publishing : (s.moveTo o (.publishing x)).manage o =
    some ((s.publish x).moveTo o (.replacing s.registrations.length .segv)) := by
  simp only [manage, get_moveTo, if_pos]
  exact congrArg some (moveTo_moveTo (s := s.publish x))

theorem manage_replacing : (s.moveTo o (.replacing r k)).manage o =
    some ((s.setAction k .ours).moveTo o (.recording r k (s.actions k))) := by
  simp only [manage, get_moveTo, if_pos]
  exact congrArg some (moveTo_moveTo (s := s.setAction k .ours))

theorem manage_recording : (s.moveTo o (.recording r k d)).manage o =
    some ((s.record r k d).moveTo o (recorded r k)) := by
  simp only [manage, get_moveTo, if_pos]
  exact congrArg some (moveTo_moveTo (s := s.record r k d))

theorem manage_withdrawing : (s.moveTo o (.withdrawing r answer)).manage o =
    some ({ s with active := none }.moveTo o (.restoring r .segv answer)) := by
  simp only [manage, get_moveTo, if_pos]
  exact congrArg some (moveTo_moveTo (s := { s with active := none }))

theorem manage_restoring : (s.moveTo o (.restoring r k answer)).manage o =
    some ((s.putBack r k).moveTo o (restored r k answer)) := by
  have hr : (s.moveTo o (.restoring r k answer)).recorded? r k = s.recorded? r k := rfl
  simp only [manage, get_moveTo, if_pos, putBack, hr]
  cases s.recorded? r k with
  | none => exact congrArg some moveTo_moveTo
  | some was => exact congrArg some (moveTo_moveTo (s := s.setAction k was))

theorem manage_draining (h : s.inFlight = 0) : (s.moveTo o (.draining r answer)).manage o =
    some (s.moveTo o (.freeing r answer)) := by
  simp only [manage, get_moveTo, if_pos, inFlight_moveTo, h, moveTo_moveTo]

theorem manage_freeing : (s.moveTo o (.freeing r answer)).manage o =
    some ({ s with freed := r :: s.freed }.moveTo o (.unlocking answer)) := by
  simp only [manage, get_moveTo, if_pos]
  exact congrArg some (moveTo_moveTo (s := { s with freed := r :: s.freed }))

theorem manage_unlocking (h : s.lock = .free) :
    ((s.heldBy o).moveTo o (.unlocking answer)).manage o =
      some (s.moveTo o (.out (some answer))) := by
  have hs : { s.heldBy o with lock := .free } = s := by rw [heldBy, ← h]
  have hl : (s.heldBy o).lock.release? o = some .free := by simp [heldBy, Mutex.release?]
  simp only [manage, get_moveTo, if_pos, lock_moveTo, hl]
  refine (congrArg some (moveTo_moveTo (s := { s.heldBy o with lock := .free }))).trans ?_
  rw [hs]

theorem manage_out {a : Option Answer} : (s.moveTo o (.out a)).manage o = none := by
  simp only [manage, get_moveTo, if_pos]

/-! ## From one end to the other -/

theorem settle_succ (h : Undisturbed s o) (hm : s.manage o = some t) :
    settle (n + 1) s o = settle n t o := by
  have hh : s.step (.handle o) = none := by
    simp [step, State.handle, h.idle, h.ended, h.violation]
  have hs : s.step (.manage o) = some t := by simp [step, hm, h.ended, h.violation]
  simp only [settle, hh, hs]
  rfl

theorem settle_out (h : Undisturbed s o) {a : Option Answer} :
    settle n (s.moveTo o (.out a)) o = s.moveTo o (.out a) := by
  cases n with
  | zero => rfl
  | succ n =>
    have hh : (s.moveTo o (.out a)).step (.handle o) = none := by
      simp [step, State.handle, h.idle, h.ended, h.violation, moveTo]
    have hs : (s.moveTo o (.out a)).step (.manage o) = none := by
      simp [step, manage_out]
    simp only [settle, hh, hs]
    rfl

theorem Undisturbed.moveTo (h : Undisturbed s o) : Undisturbed (s.moveTo o m) o :=
  ⟨h.idle, h.ended, h.violation⟩

theorem settle_enters (h : Undisturbed s o) (hl : s.lock = .free) :
    settle (n + 2) (s.moveTo o (.locking j)) o = settle n ((s.heldBy o).moveTo o (s.decide j)) o :=
  calc settle (n + 2) (s.moveTo o (.locking j)) o
    _ = settle (n + 1) ((s.heldBy o).moveTo o (.checking j)) o :=
      settle_succ h.moveTo (manage_locking hl)
    _ = settle n ((s.heldBy o).moveTo o (s.decide j)) o :=
      settle_succ ⟨h.idle, h.ended, h.violation⟩ manage_checking

theorem settle_leaves (h : Undisturbed s o) (hl : s.lock = .free) :
    settle (n + 1) ((s.heldBy o).moveTo o (.unlocking answer)) o =
      s.moveTo o (.out (some answer)) :=
  calc settle (n + 1) ((s.heldBy o).moveTo o (.unlocking answer)) o
    _ = settle n (s.moveTo o (.out (some answer))) o :=
      settle_succ ⟨h.idle, h.ended, h.violation⟩ (manage_unlocking hl)
    _ = s.moveTo o (.out (some answer)) := settle_out h

/-- An action is recorded in the registration that was just published. -/
theorem record_publish (hr : r = s.registrations.length) :
    (s.publish x).record r k d = s.publish (x.recording k d) := by
  simp [publish, record, Registration.recording, List.modify_eq_take_cons_drop, hr]

/-- Both actions have been replaced and recorded. -/
theorem publish_recording : ((s.setAction .segv .ours).setAction .bus .ours).publish
      ((x.recording .segv (s.actions .segv)).recording .bus (s.actions .bus)) = s.register x := by
  have ha := Kind.replace_both (fun _ => Disposition.ours) s.actions
  have hp := Kind.replace_both (fun q => some (s.actions q)) x.previous
  simp only [register, publish, setAction, Registration.recording, ha, hp]

theorem settle_registers (h : Undisturbed s o) :
    settle (n + 5) (s.moveTo o (.publishing x)) o =
      settle n ((s.register x).moveTo o (.unlocking .done)) o := by
  let r := s.registrations.length
  let x' := x.recording .segv (s.actions .segv)
  let t := s.setAction .segv .ours
  let u := t.setAction .bus .ours
  calc settle (n + 5) (s.moveTo o (.publishing x)) o
    _ = settle (n + 4) ((s.publish x).moveTo o (.replacing r .segv)) o :=
      settle_succ ⟨h.idle, h.ended, h.violation⟩ manage_publishing
    _ = settle (n + 3) ((t.publish x).moveTo o (.recording r .segv (s.actions .segv))) o :=
      settle_succ ⟨h.idle, h.ended, h.violation⟩ manage_replacing
    _ = settle (n + 2) (((t.publish x).record r .segv (s.actions .segv)).moveTo o
          (.replacing r .bus)) o :=
      settle_succ ⟨h.idle, h.ended, h.violation⟩ manage_recording
    _ = settle (n + 2) ((t.publish x').moveTo o (.replacing r .bus)) o := by
      rw [record_publish (r := r) (s := t) rfl]
    _ = settle (n + 1) ((u.publish x').moveTo o (.recording r .bus (s.actions .bus))) o :=
      settle_succ ⟨h.idle, h.ended, h.violation⟩ manage_replacing
    _ = settle n (((u.publish x').record r .bus (s.actions .bus)).moveTo o (.unlocking .done)) o :=
      settle_succ ⟨h.idle, h.ended, h.violation⟩ manage_recording
    _ = settle n ((s.register x).moveTo o (.unlocking .done)) o := by
      rw [record_publish (r := r) (s := u) rfl, publish_recording]

theorem putBack_eq :
    s.putBack r k = s.setAction k ((s.recorded? r k).getD (s.actions k)) := by
  unfold putBack
  cases s.recorded? r k with
  | some was => rfl
  | none =>
    have ha : (fun q => if q = k then s.actions k else s.actions q) = s.actions := by
      funext q
      split
      · rename_i e
        rw [e]
      · rfl
    simp only [setAction, Option.getD_none, ha]

/-- Both recorded actions have been put back, and the registration has been freed. -/
theorem putBack_both : { ({ s with active := none }.putBack r .segv).putBack r .bus with
      freed := r :: s.freed } = s.unregister r := by
  have ha := Kind.replace_both (fun k => (s.recorded? r k).getD (s.actions k)) s.actions
  simp only [putBack_eq, unregister, ← ha]
  rfl

theorem settle_unregisters (h : Undisturbed s o) (hf : s.inFlight = 0) :
    settle (n + 5) (s.moveTo o (.withdrawing r answer)) o =
      settle n ((s.unregister r).moveTo o (.unlocking answer)) o := by
  let t := { s with active := none }
  let u := (t.putBack r .segv).putBack r .bus
  have ht : Undisturbed (t.putBack r .segv) o := by
    rw [putBack_eq]
    exact ⟨h.idle, h.ended, h.violation⟩
  have hu : Undisturbed u o ∧ u.inFlight = 0 ∧ u.freed = s.freed := by
    simp only [u, putBack_eq]
    exact ⟨⟨h.idle, h.ended, h.violation⟩, hf, rfl⟩
  calc settle (n + 5) (s.moveTo o (.withdrawing r answer)) o
    _ = settle (n + 4) (t.moveTo o (.restoring r .segv answer)) o :=
      settle_succ h.moveTo manage_withdrawing
    _ = settle (n + 3) ((t.putBack r .segv).moveTo o (.restoring r .bus answer)) o :=
      settle_succ ⟨h.idle, h.ended, h.violation⟩ manage_restoring
    _ = settle (n + 2) (u.moveTo o (.draining r answer)) o := settle_succ ht.moveTo manage_restoring
    _ = settle (n + 1) (u.moveTo o (.freeing r answer)) o :=
      settle_succ hu.1.moveTo (manage_draining hu.2.1)
    _ = settle n ({ u with freed := r :: u.freed }.moveTo o (.unlocking answer)) o :=
      settle_succ hu.1.moveTo manage_freeing
    _ = settle n ((s.unregister r).moveTo o (.unlocking answer)) o := by
      rw [hu.2.2, putBack_both]

/-! ## Calls -/

theorem Resting.undisturbed (h : Resting s) : Undisturbed s o := ⟨h.idle o, h.ended, h.violation⟩

/-- A call goes on from what it decides to do. -/
theorem after_ask (h : Resting s) :
    s.after o (.ask o j) = settle 14 ((s.heldBy o).moveTo o (s.decide j)) o := by
  obtain ⟨a, ha⟩ := h.out o
  have hs : s.step (.ask o j) = some (s.moveTo o (.locking j)) := by
    simp [step, ha, h.ended, h.violation]
  rw [after, hs]
  exact settle_enters h.undisturbed h.lock

theorem call_eq (h : s.after o (.ask o j) = t.moveTo o (.out (some answer))) :
    s.call o j = (some answer, t.moveTo o (.out (some answer))) := by
  simp only [call, h, answer?, get_moveTo, if_pos]

/-- A call that leaves the published registration alone. -/
theorem call_refrains (h : Resting s) (hd : s.decide j = .unlocking answer) :
    s.call o j = (some answer, s.moveTo o (.out (some answer))) := by
  refine call_eq ?_
  rw [after_ask h, hd]
  exact settle_leaves h.undisturbed h.lock

/-- A call that publishes a registration. -/
theorem call_registers (h : Resting s) (hd : s.decide j = .publishing x) :
    s.call o j = (some .done, (s.register x).moveTo o (.out (some .done))) := by
  refine call_eq ?_
  calc s.after o (.ask o j)
    _ = settle 14 ((s.heldBy o).moveTo o (.publishing x)) o := by rw [after_ask h, hd]
    _ = settle 9 (((s.register x).heldBy o).moveTo o (.unlocking .done)) o :=
      settle_registers ⟨h.idle o, h.ended, h.violation⟩
    _ = (s.register x).moveTo o (.out (some .done)) :=
      settle_leaves ⟨h.idle o, h.ended, h.violation⟩ h.lock

/-- A call that removes the published registration. -/
theorem call_unregisters (h : Resting s) (hd : s.decide j = .withdrawing r answer) :
    s.call o j = (some answer, (s.unregister r).moveTo o (.out (some answer))) := by
  refine call_eq ?_
  calc s.after o (.ask o j)
    _ = settle 14 ((s.heldBy o).moveTo o (.withdrawing r answer)) o := by rw [after_ask h, hd]
    _ = settle 9 (((s.unregister r).heldBy o).moveTo o (.unlocking answer)) o :=
      settle_unregisters ⟨h.idle o, h.ended, h.violation⟩ h.inFlight
    _ = (s.unregister r).moveTo o (.out (some answer)) :=
      settle_leaves ⟨h.idle o, h.ended, h.violation⟩ h.lock

theorem Resting.moveTo {a : Option Answer} (h : Resting s) : Resting (s.moveTo o (.out a)) :=
  { h with
    out := fun x => by
      rw [get_moveTo]
      split
      · exact ⟨a, rfl⟩
      · exact h.out x }

/-- A call ends, with everything at rest. -/
theorem Resting.call (h : Resting s) (o : OsThread) (j : Job) :
    ∃ answer t, s.call o j = (some answer, t) ∧ Resting t := by
  rcases decide_cases s j with ⟨x, -, hd⟩ | ⟨r, answer, -, hd⟩ | ⟨answer, hd⟩
  · refine ⟨_, _, call_registers h hd, Resting.moveTo ?_⟩
    exact ⟨h.lock, h.inFlight, h.idle, h.out, h.ended, h.violation⟩
  · refine ⟨_, _, call_unregisters h hd, Resting.moveTo ?_⟩
    exact ⟨h.lock, h.inFlight, h.idle, h.out, h.ended, h.violation⟩
  · exact ⟨_, _, call_refrains h hd, h.moveTo⟩

theorem Tended.settle (h : Tended s) : Tended (settle n s o) := by
  induction n generalizing s with
  | zero => exact h
  | succ n ih =>
    unfold State.settle
    cases hh : s.step (.handle o) with
    | some t => exact ih (h.step hh)
    | none =>
      cases hm : s.step (.manage o) with
      | some t => exact ih (h.step hm)
      | none => exact h

/-- A call is a sequence of steps, and so keeps registrations as steps do. -/
theorem Tended.call (h : Tended s) : Tended (s.call o j).2 := by
  refine Tended.settle ?_
  cases hs : s.step (.ask o j) with
  | none => exact h
  | some t => exact h.step hs

end VmHost.Fault
