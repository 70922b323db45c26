import VmHost.Proofs.Inspect.Exclusion

/-!
# The handshake of inspector and target

Two parties write the phase of the slot: an inspector, who holds the system mutex, and the handler of
the thread that it stops, which takes no mutex. A thread is parked from its answer to a request until
it has turned the phase back to idle.

`Allows` says for every place of an inspector, and for every place of a handler, which phases the slot
can have meanwhile. `Coordinated` keeps all of this together with the mutex, and every step preserves
it (`Coordinated.step`) but one. `Run.handshake` is the result.

## What is asked of a run

* The operating system serves the inspectors (`State.Serves`): it refuses no signal to a thread that
  runs, and its clock can express the deadlines.
* No inspector disarms a request that has been answered (`State.strands`). A handler of an earlier
  request may answer a later one, and the handshake allows for that. But the target of the later one may
  have finished, so that its signal is refused. Then the inspector disarms the slot whatever the phase
  is, and a thread stays parked that nobody knows of (`parked_unattended`). The phase leaves its way at
  such a step, and at no other one (`Handshake.moves`).
-/
namespace VmHost.Inspect

open State

namespace Phase

/-- The way of the phase. -/
inductive Next : Phase → Phase → Prop
  | arm : Next .idle .requested
  | answer : Next .requested .paused
  | resume : Next .paused .resume
  | rest : Next .resume .idle
  | withdraw : Next .requested .idle

end Phase

namespace Inspecting

/-- The phases that the slot can have while an inspector is at this place. -/
def Allows : Inspecting → Phase → Prop
  | .out _, _ | .locking _, _ => True
  | .signalling _, f | .disarming _, f | .timing _, f | .polling .., f | .weighing .., f
  | .withdrawing .., f => f = .requested ∨ f = .paused
  | .capturing .., f | .holding .., f | .overwriting .., f | .marking .., f | .resuming, f =>
    f = .paused
  | .draining, f => f = .resume ∨ f = .idle
  | .confused, _ => False
  | _, f => f = .idle

theorem allows_of_not_isInside {p : Inspecting} {f : Phase} (h : ¬ p.IsInside) : p.Allows f := by
  cases p <;> first | trivial | exact (h trivial).elim

/-- An answer suits the inspector. -/
theorem Allows.paused {p : Inspecting} (h : p.Allows .requested) : p.Allows .paused := by
  cases p <;> simp_all [Allows]

/-- That the target goes on suits the inspector. -/
theorem Allows.idle {p : Inspecting} (h : p.Allows .resume) : p.Allows .idle := by
  cases p <;> simp_all [Allows]

end Inspecting

namespace Handling

/-- The handler has answered a request, and has not turned the phase back to idle. -/
def IsParked : Handling → Prop
  | .parked | .checking | .reloading .. | .releasing => True
  | _ => False

instance : DecidablePred IsParked
  | .parked | .checking | .reloading .. | .releasing => isTrue trivial
  | .out | .entered | .matching | .storing _ | .clearing | .answering => isFalse id

/-- The phases that the slot can have while a handler is at this place. -/
def Allows : Handling → Phase → Prop
  | .parked, f => f = .paused ∨ f = .resume
  | .checking, f | .reloading .., f | .releasing, f => f = .resume
  | _, _ => True

theorem allows_of_not_isParked {h : Handling} {f : Phase} (hn : ¬ h.IsParked) : h.Allows f := by
  cases h <;> first | trivial | exact (hn trivial).elim

end Handling

/-- A thread is parked. -/
def State.IsParked (s : State) (t : Identity) : Prop := (s.handler t).IsParked

/-- The clock can express the deadline, if a step computes one. -/
def State.isTimely (s : State) : Label → Bool
  | .advance o =>
    match s.inspectors.get o with
    | .timing q => (deadline? s.now q.timeout).isSome
    | _ => true
  | _ => true

/-- If a step refuses a signal, then the target has finished. -/
def State.isFair (s : State) : Label → Bool
  | .refuse o _ =>
    match s.inspectors.get o with
    | .signalling q => !(s.subjects.get q.target).live
    | _ => true
  | _ => true

/-- The operating system serves a step: it refuses no signal to a thread that runs, and its clock can
express the deadline. -/
def State.Serves (s : State) (l : Label) : Prop := s.isFair l = true ∧ s.isTimely l = true

instance (s : State) (l : Label) : Decidable (s.Serves l) := inferInstanceAs (Decidable (_ ∧ _))

/-- An inspector disarms its request, as the signal was refused, although it has been answered. -/
def State.strands (s : State) : Label → Bool
  | .advance o =>
    match s.inspectors.get o with
    | .disarming _ => s.slot.phase ≠ .requested
    | _ => false
  | _ => false

/-- Inspectors and handlers agree on the phase. -/
structure Coordinated (s : State) : Prop where
  lock : ∀ o, s.lock.holder = some o ↔ (s.inspectors.get o).IsInside
  idle : s.lock.holder = none → s.slot.phase = .idle
  inspector : ∀ o, (s.inspectors.get o).Allows s.slot.phase
  handler : ∀ t, (s.handler t).Allows s.slot.phase
  one : ∀ t u, s.IsParked t → s.IsParked u → t = u
  anyone : s.slot.phase = .paused ∨ s.slot.phase = .resume → ∃ t, s.IsParked t

variable {s₀ s s' : State} {l : Label} {o : OsThread} {t : Identity} {p : Inspecting}
  {h : Handling} {f : Slot → Slot} {past : List (Machine.Moment State Label)}

/-! ## Places before and after a step -/

theorem strands_disarming {e : Error} (hp : s.inspectors.get o = .disarming e) :
    s.strands (.advance o) = false ↔ s.slot.phase = .requested := by
  simp [strands, hp]

theorem exists_disarming (h : s.strands l = true) :
    ∃ o e, l = .advance o ∧ s.inspectors.get o = .disarming e ∧ s.slot.phase ≠ .requested := by
  unfold strands at h
  split at h
  · split at h
    · rename_i o _ e hp
      exact ⟨o, e, rfl, hp, of_decide_eq_true h⟩
    · cases h
  · cases h

theorem Moves.allows (hm : Moves s o l p) (hs : s.Serves l)
    (ha : (s.inspectors.get o).Allows s.slot.phase) : p.Allows s.slot.phase := by
  cases hm with
  | overflows hp hd => simp [Serves, isTimely, hp, hd] at hs
  | wonders hp hf =>
    rw [hp] at ha
    rcases hf with hf | hf <;> simp [hf, Inspecting.Allows] at ha
  | _ => simp_all [Inspecting.Allows]

/-- What an inspector that writes the slot does to the phase. -/
theorem Writes.next (hw : Writes s o f p) (hn : s.strands (.advance o) = false)
    (ha : (s.inspectors.get o).Allows s.slot.phase) :
    p.Allows (f s.slot).phase ∧
      ((f s.slot).phase = s.slot.phase ∨ s.slot.phase.Next (f s.slot).phase) := by
  cases hw with
  | arms hp =>
    rw [hp] at ha
    exact ⟨.inl rfl, .inr (ha ▸ .arm)⟩
  | withdraws hp hf => exact ⟨rfl, .inr (hf ▸ .withdraw)⟩
  | resumes hp =>
    rw [hp] at ha
    exact ⟨.inl rfl, .inr (ha ▸ .resume)⟩
  | disarms hp => exact ⟨rfl, .inr ((strands_disarming hp).mp hn ▸ .withdraw)⟩
  | resets hp =>
    rw [hp] at ha
    exact ha.elim
  | _ => simp_all [Inspecting.Allows]

/-- What an inspector does to the phase suits every handler. -/
theorem Writes.keeps (hw : Writes s o f p) (hn : s.strands (.advance o) = false)
    (ha : (s.inspectors.get o).Allows s.slot.phase) (hh : h.Allows s.slot.phase) :
    h.Allows (f s.slot).phase := by
  rcases (hw.next hn ha).2 with he | hx
  · rwa [he]
  · cases h <;> cases hw <;> simp_all [Handling.Allows, Inspecting.Allows, strands_disarming]

/-- An inspector lets nobody park by writing the slot. -/
theorem Writes.stirred (hw : Writes s o f p) (ha : (s.inspectors.get o).Allows s.slot.phase)
    (he : (f s.slot).phase = .paused ∨ (f s.slot).phase = .resume) :
    s.slot.phase = .paused ∨ s.slot.phase = .resume := by
  cases hw <;> simp_all [Inspecting.Allows]

theorem Reads.isParked (hr : Reads s t h) : (s.handler t).IsParked ↔ h.IsParked := by
  cases hr <;> simp [*, Handling.IsParked]

theorem Reads.allows (hr : Reads s t h) (ha : (s.handler t).Allows s.slot.phase) :
    h.Allows s.slot.phase := by
  cases hr <;> simp_all [Handling.Allows]

/-- What a handler that writes the slot does to the phase. -/
theorem Stores.next (hs : Stores s t f h) (ha : (s.handler t).Allows s.slot.phase) :
    h.Allows (f s.slot).phase ∧
      ((f s.slot).phase = s.slot.phase ∨ s.slot.phase.Next (f s.slot).phase) := by
  cases hs with
  | answers hp hf => exact ⟨.inl rfl, .inr (hf ▸ .answer)⟩
  | releases hp =>
    rw [hp] at ha
    exact ⟨trivial, .inr (ha ▸ .rest)⟩
  | _ => simp [Handling.Allows]

/-! ## One step -/

namespace Coordinated

/-- There is one inspector inside, at most. -/
theorem alone (hc : Coordinated s) {x : OsThread} (ho : (s.inspectors.get o).IsInside)
    (hx : (s.inspectors.get x).IsInside) : x = o :=
  Exclusive.alone hc.lock ho hx

/-- A parked thread excludes the phases in which nobody is parked. -/
theorem not_isParked (hc : Coordinated s) (hf : s.slot.phase = .idle ∨ s.slot.phase = .requested) :
    ¬ s.IsParked t := by
  intro hp
  have ha := hc.handler t
  unfold IsParked at hp
  cases hh : s.handler t <;> rw [hh] at hp ha <;> first | exact hp | skip
  all_goals rcases hf with hf | hf <;> simp [hf, Handling.Allows] at ha

theorem moveTo (hc : Coordinated s) (hi : (s.inspectors.get o).IsInside ↔ p.IsInside)
    (ha : p.Allows s.slot.phase) : Coordinated (s.moveTo o p) where
  lock := Exclusive.moveTo hc.lock hi rfl rfl
  idle := hc.idle
  inspector x := by
    rw [get_moveTo]
    split
    · exact ha
    · exact hc.inspector x
  handler := hc.handler
  one := hc.one
  anyone := hc.anyone

/-- Nobody's place changes, but that handlers go on without a change to who is parked. -/
theorem same (hc : Coordinated s) (hl : s'.lock = s.lock) (hf : s'.slot.phase = s.slot.phase)
    (hx : s'.inspectors = s.inspectors) (hp : ∀ u, s'.IsParked u ↔ s.IsParked u)
    (ha : ∀ u, (s'.handler u).Allows s.slot.phase) : Coordinated s' where
  lock := Exclusive.same hc.lock hl hx
  idle := by rw [hl, hf]; exact hc.idle
  inspector := by rw [hx, hf]; exact hc.inspector
  handler := by rw [hf]; exact ha
  one u v hu hv := hc.one u v ((hp u).mp hu) ((hp v).mp hv)
  anyone he := by
    obtain ⟨u, hu⟩ := hc.anyone (hf ▸ he)
    exact ⟨u, (hp u).mpr hu⟩

/-- The handler of one thread goes on, without a change to whether the thread is parked. -/
theorem moveHandler (hc : Coordinated s) (hi : (s.handler t).IsParked ↔ h.IsParked)
    (ha : h.Allows s.slot.phase) (hl : s'.lock = s.lock) (hf : s'.slot.phase = s.slot.phase)
    (hx : s'.inspectors = s.inspectors)
    (hh : ∀ u, s'.handler u = if u = t then h else s.handler u) : Coordinated s' := by
  refine hc.same hl hf hx (fun u => ?_) fun u => ?_
  · rw [IsParked, IsParked, hh]
    split
    · rename_i e
      rw [e, hi]
    · exact .rfl
  · rw [hh]
    split
    · exact ha
    · exact hc.handler u

/-- The handler of a thread that is not parked goes on, and does not park the thread. -/
theorem unparked (hc : Coordinated s) (hi : ¬ (s.handler t).IsParked) (hn : ¬ h.IsParked)
    (hl : s'.lock = s.lock) (hf : s'.slot.phase = s.slot.phase)
    (hx : s'.inspectors = s.inspectors)
    (hh : ∀ u, s'.handler u = if u = t then h else s.handler u) : Coordinated s' :=
  hc.moveHandler (iff_of_false hi hn) (Handling.allows_of_not_isParked hn) hl hf hx hh

/-- Nothing changes that the two parties agree on. -/
theorem unchanged (hc : Coordinated s) (hl : s'.lock = s.lock) (hf : s'.slot = s.slot)
    (hx : s'.inspectors = s.inspectors) (hh : ∀ u, s'.handler u = s.handler u) : Coordinated s' :=
  hc.same hl (by rw [hf]) hx (fun u => by rw [IsParked, IsParked, hh])
    fun u => by rw [hh]; exact hc.handler u

theorem writes (hc : Coordinated s) (hn : s.strands (.advance o) = false) (hw : Writes s o f p) :
    Coordinated ((s.onSlot f).moveTo o p) where
  lock := Exclusive.moveTo hc.lock (iff_of_true hw.isInside.1 hw.isInside.2) rfl rfl
  idle hl := by
    rw [lock_moveTo, lock_onSlot, (hc.lock o).mpr hw.isInside.1] at hl
    cases hl
  inspector x := by
    simp only [get_moveTo, inspectors_onSlot, slot_moveTo, slot_onSlot]
    split
    · exact (hw.next hn (hc.inspector o)).1
    · rename_i hx
      exact Inspecting.allows_of_not_isInside fun hi => hx (hc.alone hw.isInside.1 hi)
  handler t := hw.keeps hn (hc.inspector o) (hc.handler t)
  one := hc.one
  anyone he := hc.anyone (hw.stirred (hc.inspector o) he)

theorem locks (hc : Coordinated s) {q : Request} (hn : s.lock.holder = none) :
    Coordinated ({ s with lock := ⟨some o⟩ }.moveTo o (.judging q)) where
  lock := Exclusive.locks hc.lock hn
  idle := nofun
  inspector x := by
    rw [get_moveTo]
    split
    · exact hc.idle hn
    · exact hc.inspector x
  handler := hc.handler
  one := hc.one
  anyone := hc.anyone

theorem unlocks (hc : Coordinated s) {r : Outcome} (hp : s.inspectors.get o = .unlocking r) :
    Coordinated ({ s with lock := .free }.moveTo o (.out (some r))) where
  lock := Exclusive.unlocks hc.lock hp
  idle _ := by
    have ha := hc.inspector o
    rwa [hp] at ha
  inspector x := by
    rw [get_moveTo]
    split
    · trivial
    · exact hc.inspector x
  handler := hc.handler
  one := hc.one
  anyone := hc.anyone

/-- A thread is parked by its answer to a request. -/
theorem answers (hc : Coordinated s) (hf : s.slot.phase = .requested) :
    Coordinated ((s.onSlot ({ · with phase := .paused })).moveHandler t .parked) where
  lock := hc.lock
  idle hn := by
    rw [hc.idle hn] at hf
    cases hf
  inspector x := by
    have ha := hc.inspector x
    rw [hf] at ha
    exact ha.paused
  handler u := by
    rw [handler_moveHandler]
    split
    · exact .inl rfl
    · exact Handling.allows_of_not_isParked (hc.not_isParked (.inr hf))
  one u v hu hv := by
    have ht (w : Identity)
        (hw : ((s.onSlot ({ · with phase := .paused })).moveHandler t .parked).IsParked w) :
        w = t := by
      rw [IsParked, handler_moveHandler] at hw
      split at hw
      · assumption
      · exact absurd hw (hc.not_isParked (.inr hf))
    rw [ht u hu, ht v hv]
  anyone _ := ⟨t, by rw [IsParked, handler_moveHandler, if_pos rfl]; trivial⟩

/-- The thread that was parked goes on. -/
theorem releases (hc : Coordinated s) (hp : s.handler t = .releasing) :
    Coordinated ((s.onSlot ({ · with phase := .idle })).moveHandler t .out) where
  lock := hc.lock
  idle _ := rfl
  inspector x := by
    have hf := hc.handler t
    have ha := hc.inspector x
    rw [hp] at hf
    rw [show s.slot.phase = .resume from hf] at ha
    exact ha.idle
  handler u := by
    rw [handler_moveHandler]
    split
    · trivial
    · rename_i e
      exact Handling.allows_of_not_isParked fun hu => e (hc.one u t hu (by rw [IsParked, hp]; trivial))
  one u v hu := by
    rw [IsParked, handler_moveHandler] at hu
    split at hu
    · exact hu.elim
    · rename_i e
      exact absurd (hc.one u t hu (by rw [IsParked, hp]; trivial)) e
  anyone := nofun

theorem stores (hc : Coordinated s) (hs : Stores s t f h) :
    Coordinated ((s.onSlot f).moveHandler t h) := by
  cases hs with
  | answers hp hf => exact hc.answers hf
  | releases hp => exact hc.releases hp
  | stores hp | stored hp | clears hp =>
    exact hc.unparked (by rw [hp]; exact id) id rfl rfl rfl fun u => handler_moveHandler ..

theorem step (hc : Coordinated s) (hs : s.Serves l) (hn : s.strands l = false)
    (h : s.step l = some s') : Coordinated s' := by
  cases step_transition h with
  | moves hm => exact hc.moveTo hm.isInside (hm.allows hs (hc.inspector _))
  | writes hw => exact hc.writes hn hw
  | locks _ hl => exact hc.locks hl
  | unlocks hp => exact hc.unlocks hp
  | @signals o q hp =>
    have ha := hc.inspector o
    rw [hp] at ha
    refine (hc.moveTo (p := .timing q) (by rw [hp]; exact .rfl) ha).unchanged rfl rfl rfl ?_
    exact fun u => handler_send ..
  | @shows o q k got hp =>
    have ha := hc.inspector o
    rw [hp] at ha
    exact (hc.moveTo (p := .resuming) (by rw [hp]; exact .rfl) ha).unchanged rfl rfl rfl fun _ => rfl
  | delivers _ _ hf =>
    have hf := handler_of_isFree hf
    exact hc.unparked (h := .entered) (by rw [hf]; exact id) id rfl rfl rfl
      fun u => handler_onSubject ..
  | reads hr =>
    exact hc.moveHandler hr.isParked (hr.allows (hc.handler _)) rfl rfl rfl
      fun u => handler_moveHandler ..
  | stores hw => exact hc.stores hw
  | @restores t k got hp =>
    have hf := hc.handler t
    rw [hp] at hf
    exact hc.moveHandler (h := .releasing) (by rw [hp]; exact .rfl) hf rfl rfl rfl
      fun u => handler_onSubject ..
  | strays t => exact hc.unchanged rfl rfl rfl fun u => handler_send ..
  | happens hh => exact hc.unchanged rfl rfl rfl hh.handler
  | passes n => exact hc.unchanged rfl rfl rfl fun _ => rfl
  | violates => exact hc.unchanged rfl rfl rfl fun _ => rfl

end Coordinated

/-- A request that is disarmed after its signal was refused leaves the phase idle. -/
theorem phase_of_disarming {e : Error} (hp : s.inspectors.get o = .disarming e)
    (h : s.step (.advance o) = some s') : s'.slot.phase = .idle := by
  have ha := (advance_of_step h).2
  simp only [State.advance, hp, Option.some.injEq] at ha
  rw [← ha]
  rfl

/-- The phase goes its way, but where a request is disarmed that has been answered. -/
theorem Coordinated.next_iff (hc : Coordinated s) (h : s.step l = some s') :
    (s'.slot.phase = s.slot.phase ∨ s.slot.phase.Next s'.slot.phase) ↔ s.strands l = false := by
  refine ⟨fun hx => ?_, fun hn => ?_⟩
  · rw [Bool.eq_false_iff]
    intro hst
    obtain ⟨o, e, rfl, hp, hf⟩ := exists_disarming hst
    have ha := hc.inspector o
    rw [hp] at ha
    rw [phase_of_disarming hp h, ha.resolve_left hf] at hx
    rcases hx with hx | hx <;> cases hx
  · cases step_transition h with
    | writes hw => exact (hw.next hn (hc.inspector _)).2
    | stores hw => exact (hw.next (hc.handler _)).2
    | _ => exact .inl rfl

/-- An inspection is over with the release of the system mutex, and then nobody is parked. -/
theorem Coordinated.not_isParked_of_returned {r : Outcome} (hc : Coordinated s)
    (h : Transition s l s') (hn : s.inspectors.get o ≠ .out (some r))
    (hr : s'.inspectors.get o = .out (some r)) : ¬ s'.IsParked t := by
  cases h with
  | @unlocks x _ hp =>
    have ha := hc.inspector x
    rw [hp] at ha
    exact hc.not_isParked (.inl ha)
  | moves hm | writes hm =>
    rw [get_moveTo] at hr
    split at hr
    · cases hm <;> cases hr
    · exact absurd hr hn
  | locks | signals | shows =>
    rw [get_moveTo] at hr
    split at hr
    · cases hr
    · exact absurd hr hn
  | _ => exact absurd hr hn

/-! ## Whole runs -/

theorem State.Quiet.coordinated (h : s.Quiet) : Coordinated s where
  lock := h.exclusive
  idle _ := h.phase
  inspector o := by
    obtain ⟨r, hr⟩ := isOut_iff.mp (h.out o)
    rw [hr]
    trivial
  handler t := by
    rw [h.handler]
    trivial
  one t _ ht := by
    rw [IsParked, h.handler] at ht
    exact ht.elim
  anyone he := by
    rw [h.phase] at he
    rcases he with he | he <;> cases he

theorem Run.coordinated (h : Run s₀ past s) (h₀ : s₀.Quiet)
    (hs : ∀ x ∈ past, x.before.Serves x.label) (hn : ∀ x ∈ past, x.before.strands x.label = false) :
    Coordinated s := by
  induction h with
  | start => exact h₀.coordinated
  | step l _ hl ih =>
    rw [List.forall_mem_cons] at hs hn
    exact (ih hs.2 hn.2).step hs.1 hn.1 hl

/-- The handshake, as it stands in a state and as it goes on from there. -/
structure Handshake (s : State) : Prop where
  /-- The phase goes its way, but where a request is disarmed that has been answered. -/
  moves : ∀ l s', s.step l = some s' →
    ((s'.slot.phase = s.slot.phase ∨ s.slot.phase.Next s'.slot.phase) ↔ s.strands l = false)
  /-- At most one thread is parked. -/
  one : ∀ t u, s.IsParked t → s.IsParked u → t = u
  /-- While nobody has the system mutex, the slot is idle and nobody is parked. -/
  free : s.lock.holder = none → s.slot.phase = .idle ∧ ∀ t, ¬ s.IsParked t
  /-- When an inspection returns, whatever its outcome, nobody is parked. -/
  returns : ∀ o r l s', s.step l = some s' → s.inspectors.get o ≠ .out (some r) →
    s'.inspectors.get o = .out (some r) → ∀ t, ¬ s'.IsParked t
  /-- No inspector meets a phase that makes no sense. -/
  sensible : ∀ o, s.inspectors.get o ≠ .confused

/-- **The handshake works** in every run from a quiet state in which the operating system serves the
inspectors, and in which none of them disarms a request that has been answered. -/
theorem Run.handshake (h : Run s₀ past s) (h₀ : s₀.Quiet)
    (hs : ∀ x ∈ past, x.before.Serves x.label) (hn : ∀ x ∈ past, x.before.strands x.label = false) :
    Handshake s where
  moves _ _ := (h.coordinated h₀ hs hn).next_iff
  one := (h.coordinated h₀ hs hn).one
  free hl := by
    have hc := h.coordinated h₀ hs hn
    exact ⟨hc.idle hl, fun _ => hc.not_isParked (.inl (hc.idle hl))⟩
  returns _ _ _ _ hx hp hr _ :=
    (h.coordinated h₀ hs hn).not_isParked_of_returned (step_transition hx) hp hr
  sensible o hp := by
    have ha := (h.coordinated h₀ hs hn).inspector o
    rwa [hp] at ha

/-! ### Requests that are answered late -/

/-- Three threads that run their own code, and may stop each other. -/
def trio : State :=
  { State.start with
    subjects := .ofList (List.replicate 3 ⟨.zero, true, true, false, false, false, .out⟩) }

theorem quiet_trio : trio.Quiet where
  lock := rfl
  phase := rfl
  out _ := rfl
  handler t := by rcases t with _ | _ | _ | t <;> rfl

/-- Thread 0 gives up a request for thread 1, whose handler has found the request by then. -/
def giveUp : List Label :=
  .ask 0 0 ⟨1, 0, false⟩ :: List.replicate 8 (.advance 0) ++
    [.deliver 1, .handle 1, .handle 1] ++ List.replicate 4 (.advance 0)

/-- Thread 0 arms the slot for thread 2, and the handler of thread 1 answers. -/
def answerLate : List Label :=
  .ask 0 0 ⟨2, 0, false⟩ :: List.replicate 6 (.advance 0) ++ List.replicate 5 (.handle 1)

/-- The handshake takes no harm when a thread answers the request for another one. -/
theorem handshake_late : ∃ past s, Run trio past s ∧ trio.Quiet ∧
    (∀ x ∈ past, x.before.Serves x.label) ∧ (∀ x ∈ past, x.before.strands x.label = false) ∧
    s.slot.target = some 2 ∧ s.IsParked 1 ∧ Handshake s := by
  obtain ⟨past, s, h, hp⟩ := Machine.exists_run State.step trio
    (fun past s => past.all (fun x => decide (x.before.Serves x.label)) ∧
      past.all (fun x => x.before.strands x.label = false) ∧ s.slot.target = some 2 ∧
      (s.handler 1).IsParked)
    (giveUp ++ answerLate) (by decide)
  simp only [List.all_eq_true, decide_eq_true_eq] at hp
  obtain ⟨hs, hn, ht, hpark⟩ := hp
  exact ⟨past, s, h, quiet_trio, hs, hn, ht, hpark, Run.handshake h quiet_trio hs hn⟩

/-- Thread 2 has ended when the signal is sent, so that thread 0 disarms the slot and returns. -/
def refused : List Label :=
  [.finish 2, .leave 2, .refuse 0 .threadFinished, .advance 0, .advance 0]

/-- The signal of a request that was answered late is refused, since its target has ended. So the phase
turns from paused to idle, and the inspector returns the system mutex, with a thread parked that nobody
knows of. -/
theorem parked_unattended : ∃ past s, Run trio past s ∧ trio.Quiet ∧
    (∀ x ∈ past, x.before.Serves x.label) ∧
    (∃ x ∈ past, x.before.slot.phase = .paused ∧ x.after.slot.phase = .idle) ∧
    s.inspectors.get 0 = .out (some (.failed .threadFinished)) ∧ s.lock.holder = none ∧
    s.IsParked 1 := by
  obtain ⟨past, s, h, hp⟩ := Machine.exists_run State.step trio
    (fun past s => past.all (fun x => decide (x.before.Serves x.label)) ∧
      past.any (fun x => x.before.slot.phase = .paused ∧ x.after.slot.phase = .idle) ∧
      s.inspectors.get 0 = .out (some (.failed .threadFinished)) ∧ s.lock.holder = none ∧
      (s.handler 1).IsParked)
    (giveUp ++ answerLate ++ refused) (by decide)
  simp only [List.all_eq_true, List.any_eq_true, decide_eq_true_eq] at hp
  exact ⟨past, s, h, quiet_trio, hp⟩

end VmHost.Inspect
