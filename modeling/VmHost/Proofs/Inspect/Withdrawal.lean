import VmHost.Proofs.Inspect.Handshake

/-!
# What a failed inspection leaves behind

An inspection that fails disarms the slot, but it cannot take its signal back. The signal may be pending
then, or its handler may have begun. A handler parks its thread only if it finds the slot armed, so a
thread is safe from old signals as long as nobody aims the slot at it again.

* `Tidy`: which phases the slot can have, whatever handlers of earlier requests do. It holds as long as
  the clock can express the deadlines of all inspectors (`State.isTimely`).
* `Disarmed`: the slot is not armed, and nobody is about to arm it.
* `Spared`: a thread that the slot is not armed for, and whose handler has not found a request.
-/
namespace VmHost.Inspect

open State

/-- The thread that a step aims the slot at. -/
def State.aims? (s : State) : Label → Option Identity
  | .advance o =>
    match s.inspectors.get o with
    | .aiming q => some q.target
    | _ => none
  | _ => none

namespace Inspecting

/-- The phases that the slot can have while an inspector is at this place, if handlers of earlier
requests may answer and go on at any time. -/
def Permits : Inspecting → Phase → Prop
  | .out _, _ | .locking _, _ => True
  | .signalling _, f | .disarming _, f | .timing _, f | .polling .., f | .weighing .., f
  | .withdrawing .., f | .confused, f => f ≠ .resume
  | .capturing .., f | .holding .., f | .overwriting .., f | .marking .., f | .resuming, f =>
    f = .paused ∨ f = .idle
  | .draining, f => f = .resume ∨ f = .idle
  | .unlocking .overflowed, _ => False
  | _, f => f = .idle

/-- The inspector has aimed the slot, and is about to arm it. -/
def IsArming : Inspecting → Prop
  | .clearing _ | .arming _ => True
  | _ => False

variable {p : Inspecting} {f : Phase}

theorem permits_of_not_isInside (h : ¬ p.IsInside) : p.Permits f := by
  cases p <;> first | trivial | exact (h trivial).elim

/-- That a handler turns the phase to idle suits every inspector, -/
theorem Permits.idle (h : p.Permits f) : p.Permits .idle := by
  cases p <;> simp_all [Permits]
  split at h <;> simp_all

/-- and so does an answer. -/
theorem Permits.paused (h : p.Permits .requested) : p.Permits .paused := by
  cases p <;> simp_all [Permits]
  split at h <;> simp_all

theorem IsArming.isInside (h : p.IsArming) : p.IsInside := by
  cases p <;> trivial

end Inspecting

/-- The phase suits every inspector, and the slot is idle while nobody has the mutex. -/
structure Tidy (s : State) : Prop where
  exclusive : Exclusive s
  idle : s.lock.holder = none → s.slot.phase = .idle
  permits : ∀ o, (s.inspectors.get o).Permits s.slot.phase

/-- The slot is not armed, and nobody is about to arm it. -/
structure Disarmed (s : State) : Prop where
  phase : s.slot.phase ≠ .requested
  arming : ∀ o, ¬ (s.inspectors.get o).IsArming

/-- The handler of a thread has not found a request, and the slot is not armed for the thread. -/
structure Spared (s : State) (t : Identity) : Prop where
  handler : s.handler t = .out ∨ s.handler t = .entered ∨
    s.handler t = .matching ∧ s.slot.target ≠ some t
  aimed : s.slot.target = some t → Disarmed s

variable {s₀ s s' y : State} {l : Label} {o : OsThread} {t u : Identity} {p : Inspecting}
  {h : Handling} {f : Slot → Slot} {past : List (Machine.Moment State Label)}

/-! ## The phase -/

theorem Moves.permits (hm : Moves s o l p) (hk : s.isTimely l = true)
    (hp : (s.inspectors.get o).Permits s.slot.phase) : p.Permits s.slot.phase := by
  cases hm with
  | asks => trivial
  | overflows hi hd =>
    unfold isTimely at hk
    simp only [hi, hd] at hk
    cases hk
  | meets hi hf => exact .inl hf
  | drains hi hf =>
    rw [hi] at hp
    exact hp.resolve_left hf
  | finds hi | finished hi | resolves hi | unresolved hi | refused hi | times hi | waits hi | wonders hi
  | persists hi | despairs hi | answered hi | captures hi | holds hi | rewrites hi | resumes hi =>
    rw [hi] at hp
    exact hp

theorem Writes.permits (hw : Writes s o f p) (hp : (s.inspectors.get o).Permits s.slot.phase) :
    p.Permits (f s.slot).phase := by
  cases hw with
  | arms => nofun
  | disarms | withdraws | resets => rfl
  | resumes => exact .inl rfl
  | aims hi | clears hi | overwrites hi | overwritten hi | marks hi =>
    rw [hi] at hp
    exact hp

/-- A handler answers a request, turns the phase to idle, or leaves it alone. -/
theorem Stores.phase (hw : Stores s t f h) : (f s.slot).phase = s.slot.phase ∨
    s.slot.phase = .requested ∧ (f s.slot).phase = .paused ∨ (f s.slot).phase = .idle := by
  cases hw with
  | stores | stored | clears => exact .inl rfl
  | answers _ hf => exact .inr (.inl ⟨hf, rfl⟩)
  | releases => exact .inr (.inr rfl)

theorem Stores.target (hw : Stores s t f h) : (f s.slot).target = s.slot.target := by
  cases hw <;> rfl

namespace Tidy

theorem start (hq : s.Quiet) : Tidy s where
  exclusive := hq.exclusive
  idle _ := hq.phase
  permits o := by
    obtain ⟨r, hr⟩ := isOut_iff.mp (hq.out o)
    rw [hr]
    trivial

/-- An inspector goes on with what the phase permits. -/
theorem moveTo (ht : Tidy s) (he : Exclusive (s.moveTo o p)) (hp : p.Permits s.slot.phase) :
    Tidy (s.moveTo o p) where
  exclusive := he
  idle := ht.idle
  permits x := by
    rw [get_moveTo]
    split
    · exact hp
    · exact ht.permits x

/-- What handlers do to the phase suits every inspector. -/
theorem same (ht : Tidy s) (hl : y.lock = s.lock) (hx : y.inspectors = s.inspectors)
    (hf : y.slot.phase = s.slot.phase ∨
      s.slot.phase = .requested ∧ y.slot.phase = .paused ∨ y.slot.phase = .idle) : Tidy y where
  exclusive := ht.exclusive.same hl hx
  idle hn := by
    have hi := ht.idle (hl ▸ hn)
    rcases hf with hf | ⟨hf, -⟩ | hf
    · rw [hf, hi]
    · cases hi.symm.trans hf
    · exact hf
  permits o := by
    have hp := ht.permits o
    rw [hx]
    rcases hf with hf | ⟨hf, hf'⟩ | hf
    · rw [hf]
      exact hp
    · rw [hf']
      rw [hf] at hp
      exact hp.paused
    · rw [hf]
      exact hp.idle

theorem step (ht : Tidy s) (hk : s.isTimely l = true) (hs : s.step l = some s') : Tidy s' := by
  have he := ht.exclusive.step hs
  cases step_transition hs with
  | moves hm => exact ht.moveTo he (hm.permits hk (ht.permits _))
  | @writes o f p hw =>
    refine ⟨he, fun hn => ?_, fun x => ?_⟩
    · rw [lock_moveTo, lock_onSlot, (ht.exclusive o).mpr hw.isInside.1] at hn
      cases hn
    · rw [get_moveTo, inspectors_onSlot, slot_moveTo, slot_onSlot]
      split
      · exact hw.permits (ht.permits o)
      · rename_i hx
        apply Inspecting.permits_of_not_isInside
        intro hi
        exact hx (ht.exclusive.alone hw.isInside.1 hi)
  | @locks o q hi hn =>
    refine ⟨he, nofun, fun x => ?_⟩
    rw [get_moveTo]
    split
    · exact ht.idle hn
    · exact ht.permits x
  | @unlocks o r hi =>
    refine ⟨he, fun _ => ?_, fun x => ?_⟩
    · have hp := ht.permits o
      rw [hi] at hp
      cases r with
      | resumed | failed => exact hp
      | overflowed => exact hp.elim
    · rw [get_moveTo]
      split
      · trivial
      · exact ht.permits x
  | @signals o q hi =>
    have hp := ht.permits o
    rw [hi] at hp
    exact (ht.same (y := s.send q.target) rfl rfl (.inl rfl)).moveTo he hp
  | @shows o q k got hi =>
    have hp := ht.permits o
    rw [hi] at hp
    exact Tidy.moveTo (ht.same rfl rfl (.inl rfl)) he hp
  | stores hw => exact ht.same rfl rfl hw.phase
  | delivers | reads | restores | strays | happens | passes | violates =>
    exact ht.same rfl rfl (.inl rfl)

end Tidy

theorem Run.tidy (hr : Run s₀ past s) (h₀ : s₀.Quiet)
    (hk : ∀ m ∈ past, m.before.isTimely m.label = true) : Tidy s := by
  induction hr with
  | start => exact .start h₀
  | step l _ hs ih =>
    rw [List.forall_mem_cons] at hk
    exact (ih hk.2).step hk.1 hs

/-! ## Aiming and arming -/

theorem Moves.aims? (hm : Moves s o l p) : s.aims? l = none ∧ ¬ p.IsArming := by
  cases hm <;> simp [State.aims?, *, Inspecting.IsArming]

/-- The slot is aimed at the target that it was aimed at last. -/
theorem target_of_step (hs : s.step l = some s') :
    s'.slot.target = (s.aims? l).or s.slot.target := by
  cases step_transition hs with
  | moves hm =>
    rw [hm.aims?.1]
    rfl
  | writes hw => cases hw <;> simp [aims?, *]
  | locks hi | unlocks hi | signals hi | shows hi =>
    simp only [aims?, hi]
    rfl
  | stores hw => exact hw.target
  | violates hb => cases hb <;> simp [aims?, *]
  | happens hh => cases hh <;> rfl
  | delivers | reads | restores | strays | passes => rfl

/-- Where the slot is aimed, the aiming inspector is inside. -/
theorem exists_aiming (h : s.aims? l = some t) :
    ∃ x q, l = .advance x ∧ s.inspectors.get x = .aiming q ∧ q.target = t := by
  unfold aims? at h
  split at h
  · split at h
    · rename_i x _ q hp
      exact ⟨x, q, rfl, hp, Option.some.inj h⟩
    · cases h
  · cases h

/-- While an inspector is inside and does something else, nobody aims the slot. -/
theorem aims?_of_isInside (hc : Exclusive s) (hi : (s.inspectors.get o).IsInside)
    (hn : ∀ q, s.inspectors.get o ≠ .aiming q) : s.aims? l = none := by
  cases h : s.aims? l with
  | none => rfl
  | some t =>
    obtain ⟨x, q, -, hp, -⟩ := exists_aiming h
    obtain rfl := hc.alone hi (x := x) (by rw [hp]; trivial)
    exact absurd hp (hn q)

namespace Disarmed

/-- An inspector that is not about to arm the slot goes on. -/
theorem moveTo (hd : Disarmed s) (hp : ¬ p.IsArming) (hx : y.inspectors = s.inspectors)
    (hf : y.slot.phase ≠ .requested) : Disarmed (y.moveTo o p) where
  phase := hf
  arming x := by
    rw [get_moveTo, hx]
    split
    · exact hp
    · exact hd.arming x

/-- The slot stays disarmed unless it is aimed. -/
theorem step (hd : Disarmed s) (hs : s.step l = some s') (ha : s.aims? l = none) : Disarmed s' := by
  cases step_transition hs with
  | moves hm => exact hd.moveTo hm.aims?.2 rfl hd.phase
  | @writes o f p hw =>
    cases hw with
    | aims hi =>
      unfold aims? at ha
      simp only [hi] at ha
      cases ha
    | clears hi | arms hi =>
      have hn := hd.arming o
      rw [hi] at hn
      exact absurd trivial hn
    | disarms | withdraws | resets | resumes => exact hd.moveTo (y := s.onSlot _) id rfl nofun
    | overwrites | overwritten | marks => exact hd.moveTo (y := s.onSlot _) id rfl hd.phase
  | @locks o q hi => exact hd.moveTo (y := { s with lock := ⟨some o⟩ }) id rfl hd.phase
  | unlocks => exact hd.moveTo (y := { s with lock := .free }) id rfl hd.phase
  | @signals o q => exact hd.moveTo (y := s.send q.target) id rfl hd.phase
  | shows => exact hd.moveTo id rfl hd.phase
  | stores hw =>
    refine ⟨?_, hd.arming⟩
    rcases hw.phase with hf | ⟨hf, -⟩ | hf
    · exact fun e => hd.phase (hf.symm.trans e)
    · exact absurd hf hd.phase
    · exact fun e => by cases hf.symm.trans e
  | delivers | reads | restores | strays | happens | passes | violates => exact ⟨hd.phase, hd.arming⟩

/-- Nobody is parked while the slot is disarmed who was not parked before. -/
theorem isParked (hd : Disarmed s) (hs : s.step l = some s') (hp : s'.IsParked t) : s.IsParked t := by
  unfold IsParked at hp ⊢
  cases step_transition hs with
  | @reads u h hr =>
    rw [handler_moveHandler] at hp
    split at hp
    · rename_i e
      rw [e]
      exact hr.isParked.mpr hp
    · exact hp
  | @stores u f h hw =>
    rw [handler_moveHandler] at hp
    split at hp
    · cases hw with
      | stores | stored | clears | releases => exact hp.elim
      | answers _ hf => exact absurd hf hd.phase
    · exact hp
  | @restores u k got hh =>
    rw [handler_onSubject] at hp
    split at hp
    · rename_i e
      rw [e, hh]
      trivial
    · exact hp
  | delivers =>
    rw [handler_onSubject] at hp
    split at hp
    · exact hp.elim
    · exact hp
  | signals | strays =>
    first | rw [handler_moveTo, handler_send] at hp | rw [handler_send] at hp
    exact hp
  | happens hh =>
    rw [hh.handler] at hp
    exact hp
  | moves | writes | locks | unlocks | shows | passes | violates => exact hp

end Disarmed

/-- While nobody has the mutex, the slot is disarmed. -/
theorem Tidy.disarmed_of_free (ht : Tidy s) (hn : s.lock.holder = none) : Disarmed s where
  phase := by
    rw [ht.idle hn]
    nofun
  arming o ha := by
    have ho := (ht.exclusive o).mpr ha.isInside
    cases hn.symm.trans ho

theorem Tidy.idle_of_failed (ht : Tidy s) {e : Error}
    (hp : s.inspectors.get o = .unlocking (.failed e)) : s.slot.phase = .idle := by
  have hf := ht.permits o
  rw [hp] at hf
  exact hf

/-- An inspection that has failed leaves the slot disarmed. -/
theorem Tidy.disarmed_of_failed (ht : Tidy s) {e : Error}
    (hp : s.inspectors.get o = .unlocking (.failed e)) : Disarmed s where
  phase := by
    rw [ht.idle_of_failed hp]
    nofun
  arming x ha := by
    obtain rfl := ht.exclusive.alone (o := o) (by rw [hp]; trivial) ha.isInside
    rw [hp] at ha
    exact ha

/-- Who is not parked while the slot is disarmed is not parked until it is aimed again. -/
theorem Run.disarmed (hr : Run s past s') (hd : Disarmed s)
    (ha : ∀ m ∈ past, m.before.aims? m.label = none) :
    Disarmed s' ∧ (s'.IsParked t → s.IsParked t) := by
  induction hr with
  | start => exact ⟨hd, id⟩
  | step l _ hs ih =>
    rw [List.forall_mem_cons] at ha
    obtain ⟨hd', hp⟩ := ih ha.2
    exact ⟨hd'.step hs ha.1, fun h => hp (hd'.isParked hs h)⟩

namespace Spared

theorem not_isParked (hp : Spared s t) : ¬ s.IsParked t := by
  unfold IsParked
  rcases hp.handler with h | h | ⟨h, -⟩ <;> rw [h] <;> exact id

theorem of_disarmed (hd : Disarmed s) (hh : s.handler t = .out ∨ s.handler t = .entered) :
    Spared s t where
  handler := hh.imp_right .inl
  aimed _ := hd

/-- The handler of a spared thread finds no request. -/
theorem reads (hp : Spared s t) (hr : Reads s t h) :
    h = .out ∨ h = .entered ∨ h = .matching ∧ s.slot.target ≠ some t := by
  have hn := hp.not_isParked
  unfold IsParked at hn
  cases hr with
  | notices hi hf => exact .inr (.inr ⟨rfl, fun e => (hp.aimed e).phase hf⟩)
  | ignores | spares | abandons => exact .inl rfl
  | recognizes hi hf =>
    rcases hp.handler with h | h | ⟨-, h⟩
    · cases hi.symm.trans h
    · cases hi.symm.trans h
    · exact absurd hf h
  | wakes hi | changes hi | keeps hi | reloads hi =>
    rw [hi] at hn
    exact absurd trivial hn

theorem not_stores (hp : Spared s t) : ¬ Stores s t f h := by
  intro hw
  rcases hp.handler with h | h | ⟨h, -⟩ <;> cases hw <;> simp_all

/-- A thread is spared until the slot is aimed at it. -/
theorem step (hp : Spared s t) (hs : s.step l = some s') (ha : s.aims? l ≠ some t) : Spared s' t := by
  have hto : s'.slot.target = some t → s.slot.target = some t ∧ s.aims? l = none := by
    intro e
    rw [target_of_step hs] at e
    cases h : s.aims? l with
    | none => exact ⟨by rwa [h] at e, rfl⟩
    | some u => exact absurd (by rwa [h] at e ⊢) ha
  refine ⟨?_, fun e => (hp.aimed (hto e).1).step hs (hto e).2⟩
  -- Only its own handler can find a request, and the slot is not aimed at the thread if it was not.
  have hsame : s.handler t = .out ∨ s.handler t = .entered ∨
      s.handler t = .matching ∧ s'.slot.target ≠ some t :=
    hp.handler.imp_right (·.imp_right fun h => ⟨h.1, fun e => h.2 (hto e).1⟩)
  cases step_transition hs with
  | @reads u h hr =>
    rw [handler_moveHandler]
    split
    · rename_i e
      subst e
      exact hp.reads hr
    · exact hsame
  | @stores u f h hw =>
    rw [handler_moveHandler]
    split
    · rename_i e
      subst e
      exact absurd hw hp.not_stores
    · exact hsame
  | @restores u k got hh =>
    rw [handler_onSubject]
    split
    · rename_i e
      subst e
      rcases hp.handler with h | h | ⟨h, -⟩ <;> cases hh.symm.trans h
    · exact hsame
  | delivers =>
    rw [handler_onSubject]
    split
    · exact .inr (.inl rfl)
    · exact hsame
  | signals =>
    rw [handler_moveTo, handler_send]
    exact hsame
  | strays =>
    rw [handler_send]
    exact hsame
  | happens hh =>
    rw [hh.handler]
    exact hsame
  | moves | writes | locks | unlocks | shows | passes | violates => exact hsame

end Spared

/-- A spared thread is spared, and not parked, until the slot is aimed at it. -/
theorem Run.spared (hr : Run s past s') (hp : Spared s t)
    (ha : ∀ m ∈ past, m.before.aims? m.label ≠ some t) : Spared s' t := by
  induction hr with
  | start => exact hp
  | step l _ hs ih =>
    rw [List.forall_mem_cons] at ha
    exact (ih ha.2).step hs ha.1

end VmHost.Inspect
