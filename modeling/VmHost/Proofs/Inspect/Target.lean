import VmHost.Proofs.Inspect.Withdrawal

/-!
# The thread that is stopped

A request names its target, and the handler of a signal looks at that name before it copies registers
into the slot. But when it answers, it looks at the phase only. So a handler that has found an earlier
request, which its inspector has given up, may answer a later one for another thread.

This needs a handler between its look at the target and its answer (`Handling.IsAhead`) when the slot
is aimed at the next target. Where nobody is (`State.Clears`), `Aimed` holds: the handlers that answer
or have answered are the target's, and the words that the inspector reads are the target's registers.

* `Run.stops`: then it is the target that is parked, and the inspector has its registers.
* `stops_other`: else another thread may be parked in its place.

Where nobody is ahead, a request is not answered either when its signal is refused: the target has ended
(`Refused`), and only the target might have answered.
-/
namespace VmHost.Inspect

open State

namespace Slice

/-- The words before this one are the same. -/
def Agrees (a b : Registers) : Slice → Prop
  | .ip => True
  | .frame => a.ip = b.ip
  | .stack => a.ip = b.ip ∧ a.frame = b.frame

variable {k k' : Slice} {a b : Registers}

/-- One more word is copied. -/
theorem Agrees.next (h : k.Agrees a b) (hk : k.next? = some k') :
    k'.Agrees (k.put a (k.of b)) b := by
  cases k <;> cases hk
  · rfl
  · exact ⟨h, rfl⟩

/-- The last word is copied. -/
theorem Agrees.all (h : k.Agrees a b) (hk : k.next? = none) : k.put a (k.of b) = b := by
  cases k <;> cases hk
  rcases a with ⟨_, _, _⟩
  rcases b with ⟨_, _, _⟩
  obtain ⟨rfl, rfl⟩ := h
  rfl

end Slice

namespace Handling

/-- The handler has found a request for its thread, and has not answered it. -/
def IsAhead : Handling → Prop
  | .storing _ | .clearing | .answering => True
  | _ => False

instance : DecidablePred IsAhead
  | .storing _ | .clearing | .answering => isTrue trivial
  | .out | .entered | .matching | .parked | .checking | .reloading .. | .releasing => isFalse id

/-- The slot is aimed at the thread of this handler, if that answers or has answered a request. The
words that it has copied are in the slot, until it has answered. -/
def Suits (y : Slot) (t : Identity) (saved : Registers) : Handling → Prop
  | .storing k => y.target = some t ∧ k.Agrees y.registers saved
  | .clearing | .answering => y.target = some t ∧ y.registers = saved
  | .parked | .checking | .reloading .. | .releasing => y.target = some t
  | .out | .entered | .matching => True

theorem suits_of_not {h : Handling} {y : Slot} {t : Identity} {r : Registers} (ha : ¬ h.IsAhead)
    (hp : ¬ h.IsParked) : h.Suits y t r := by
  cases h <;> first | trivial | exact (ha trivial).elim | exact (hp trivial).elim

/-- A handler that is not ahead does not mind what registers the slot holds. -/
theorem Suits.sleeps {h : Handling} {y y' : Slot} {t : Identity} {r r' : Registers}
    (hs : h.Suits y t r) (hn : ¬ h.IsAhead) (he : y'.target = y.target) : h.Suits y' t r' := by
  cases h <;> first | trivial | exact (hn trivial).elim | exact he.trans hs

/-- Only the target and the registers count. -/
theorem Suits.congr {h : Handling} {y y' : Slot} {t : Identity} {r : Registers}
    (hs : h.Suits y t r) (he : y'.target = y.target) (hr : y'.registers = y.registers) :
    h.Suits y' t r := by
  cases h <;> simp only [Suits, he, hr] at hs ⊢ <;> exact hs

theorem Suits.target {h : Handling} {y : Slot} {t : Identity} {r : Registers} (hs : h.Suits y t r)
    (hh : h.IsAhead ∨ h.IsParked) : y.target = some t := by
  cases h <;> first | exact hs | exact hs.1 | exact (hh.elim id id).elim

end Handling

namespace Inspecting

/-- The slot is aimed at the target of the inspector. Once it has been answered, it holds the target's
registers; of these the inspector has read the first words. -/
def Sees (y : Slot) (saved : Identity → Registers) : Inspecting → Prop
  | .clearing q | .arming q | .holding q _ | .overwriting q _ _ | .marking q _ =>
    y.target = some q.target
  | .signalling q | .timing q | .polling q _ | .weighing q _ | .withdrawing q _ _ =>
    y.target = some q.target ∧ (y.phase = .paused → y.registers = saved q.target)
  | .capturing q k got =>
    y.target = some q.target ∧ y.registers = saved q.target ∧ k.Agrees got (saved q.target)
  | _ => True

theorem sees_of_not_isInside {p : Inspecting} {y : Slot} {saved : Identity → Registers}
    (h : ¬ p.IsInside) : p.Sees y saved := by
  cases p <;> first | trivial | exact (h trivial).elim

/-- Only the target, the registers and the phase count. -/
theorem Sees.congr {p : Inspecting} {y y' : Slot} {saved : Identity → Registers}
    (hs : p.Sees y saved) (he : y'.target = y.target) (hr : y'.registers = y.registers)
    (hf : y'.phase = y.phase) : p.Sees y' saved := by
  cases p <;> simp only [Sees, he, hr, hf] at hs ⊢ <;> exact hs

/-- Only the registers of the target count. -/
theorem Sees.congr_saved {p : Inspecting} {y : Slot} {saved saved' : Identity → Registers}
    (hs : p.Sees y saved) (hv : ∀ v, y.target = some v → saved' v = saved v) :
    p.Sees y saved' := by
  -- What remains are the places from which the registers of the target are looked at.
  cases p <;> first | exact hs | skip
  all_goals
    rw [Sees, hv _ hs.1]
    exact hs

/-- While the slot is not answered, an inspector does not mind what registers it holds. -/
theorem Sees.unanswered {p : Inspecting} {y y' : Slot} {saved saved' : Identity → Registers}
    (hs : p.Sees y saved) (ha : p.Allows y.phase) (hf : y.phase ≠ .paused)
    (hf' : y'.phase ≠ .paused) (he : y'.target = y.target) : p.Sees y' saved' := by
  cases p <;> simp only [Sees, Allows, he] at hs ha ⊢ <;> first | exact hs | exact (hf ha).elim | skip
  all_goals exact ⟨hs.1, fun h => (hf' h).elim⟩

end Inspecting

/-- No handler is ahead when the slot is aimed at a target. -/
def State.Clears (s : State) : Label → Prop
  | .advance o =>
    match s.inspectors.get o with
    | .aiming _ => ∀ t, ¬ (s.handler t).IsAhead
    | _ => True
  | _ => True

/-- The slot is aimed at whoever answers it, and holds what it should. -/
structure Aimed (s : State) : Prop where
  handler : ∀ t, (s.handler t).Suits s.slot t (s.saved t)
  inspector : ∀ o, (s.inspectors.get o).Sees s.slot s.saved

variable {s₀ s s' : State} {l : Label} {o : OsThread} {t u : Identity} {p : Inspecting}
  {h : Handling} {f : Slot → Slot} {past : List (Machine.Moment State Label)}

namespace Aimed

/-- A thread that is ahead is the one that the slot is aimed at, and nobody is parked. -/
theorem awake (ha : Aimed s) (hc : Coordinated s) (ht : (s.handler t).IsAhead) :
    s.slot.phase ≠ .paused ∧ s.slot.phase ≠ .resume := by
  rw [← not_or]
  intro hf
  obtain ⟨u, hu⟩ := hc.anyone hf
  have he := ((ha.handler t).target (.inl ht)).symm.trans ((ha.handler u).target (.inr hu))
  obtain rfl := Option.some.inj he
  unfold State.IsParked at hu
  cases hh : s.handler t <;> rw [hh] at ht hu <;> first | exact ht | exact hu

/-- Who is ahead is alone. -/
theorem alone (ha : Aimed s) (ht : (s.handler t).IsAhead) (hu : (s.handler u).IsAhead) : u = t :=
  Option.some.inj (((ha.handler u).target (.inl hu)).symm.trans ((ha.handler t).target (.inl ht)))

end Aimed

/-! ## Places before and after a step -/

theorem Moves.sees (hm : Moves s o l p) (hi : (s.inspectors.get o).Sees s.slot s.saved) :
    p.Sees s.slot s.saved := by
  cases hm with
  | times hp | waits hp | persists hp | despairs hp | answered hp | rewrites hp =>
    rwa [hp] at hi
  | meets hp hf =>
    rw [hp] at hi
    exact ⟨hi.1, hi.2 hf, trivial⟩
  | captures hp hk =>
    rw [hp] at hi
    rw [hi.2.1]
    exact ⟨hi.1, hi.2.1, hi.2.2.next hk⟩
  | holds hp =>
    rw [hp] at hi
    exact hi.1
  | _ => trivial

theorem Writes.sees (hw : Writes s o f p) (hi : (s.inspectors.get o).Sees s.slot s.saved) :
    p.Sees (f s.slot) s.saved := by
  cases hw with
  | aims => exact rfl
  | clears hp | overwrites hp | overwritten hp | marks hp => rwa [hp] at hi
  | arms hp =>
    rw [hp] at hi
    exact ⟨hi, nofun⟩
  | _ => trivial

/-- What an inspector does to the slot suits every handler. -/
theorem Writes.suits (hw : Writes s o f p) (hl : s.Clears (.advance o)) (hc : Coordinated s)
    (ha : Aimed s) : (s.handler t).Suits (f s.slot) t (s.saved t) := by
  have hi := hc.inspector o
  cases hw with
  | aims hp =>
    rw [State.Clears, hp] at hl
    rw [hp] at hi
    exact Handling.suits_of_not (hl t) (hc.not_isParked (.inl hi))
  | overwrites hp | overwritten hp =>
    rw [hp] at hi
    exact (ha.handler t).sleeps (fun ht => (ha.awake hc ht).1 hi) rfl
  | _ => exact (ha.handler t).congr rfl rfl

theorem Reads.suits (hr : Reads s t h) (hs : (s.handler t).Suits s.slot t (s.saved t)) :
    h.Suits s.slot t (s.saved t) := by
  cases hr with
  | recognizes hp ht => exact ⟨ht, trivial⟩
  | wakes hp | changes hp | keeps hp | reloads hp => rwa [hp] at hs
  | _ => trivial

theorem Stores.suits (hw : Stores s t f h) (hs : (s.handler t).Suits s.slot t (s.saved t)) :
    h.Suits (f s.slot) t (s.saved t) := by
  cases hw with
  | stores hp hk =>
    rw [hp] at hs
    exact ⟨hs.1, hs.2.next hk⟩
  | stored hp hk =>
    rw [hp] at hs
    exact ⟨hs.1, hs.2.all hk⟩
  | clears hp => rwa [hp] at hs
  | answers hp =>
    rw [hp] at hs
    exact hs.1
  | releases => trivial

/-- What a handler does to the slot suits the other ones. -/
theorem Stores.suits_other (hw : Stores s t f h) (ha : Aimed s) (hu : u ≠ t) :
    (s.handler u).Suits (f s.slot) u (s.saved u) := by
  cases hw with
  | stores hp | stored hp =>
    refine (ha.handler u).sleeps (fun hx => hu (ha.alone ?_ hx)) rfl
    rw [hp]
    trivial
  | _ => exact (ha.handler u).congr rfl rfl

/-- What a handler does to the slot suits the inspectors. -/
theorem Stores.sees (hw : Stores s t f h) (hc : Coordinated s) (ha : Aimed s) :
    (s.inspectors.get o).Sees (f s.slot) s.saved := by
  have hi := ha.inspector o
  have hs := ha.handler t
  cases hw with
  | stores hp | stored hp =>
    have hf := (ha.awake hc (t := t) (by rw [hp]; trivial)).1
    exact hi.unanswered (hc.inspector o) hf hf rfl
  | clears hp => exact hi.congr rfl rfl rfl
  | answers hp hf =>
    rw [hp] at hs
    generalize s.inspectors.get o = p at hi ⊢
    -- What remains are the places from which the answer is awaited.
    cases p <;> first | exact hi | skip
    all_goals
      refine ⟨hi.1, fun _ => ?_⟩
      obtain rfl := Option.some.inj (hi.1.symm.trans hs.1)
      exact hs.2
  | releases hp =>
    have hf := hc.handler t
    rw [hp] at hf
    have hf : s.slot.phase ≠ .paused := by rw [show s.slot.phase = .resume from hf]; nofun
    exact hi.unanswered (hc.inspector o) hf nofun rfl

/-! ## One step -/

namespace Aimed

/-- Nothing changes but the places of handlers. -/
theorem same (ha : Aimed s) (hf : s'.slot = s.slot) (hx : s'.inspectors = s.inspectors)
    (hv : ∀ u, s'.saved u = s.saved u) (hh : ∀ u, (s'.handler u).Suits s.slot u (s.saved u)) :
    Aimed s' where
  handler u := by
    rw [hf, hv]
    exact hh u
  inspector x := by
    rw [hf, hx, funext hv]
    exact ha.inspector x

/-- Nothing changes that matters. -/
theorem unchanged (ha : Aimed s) (hf : s'.slot = s.slot) (hx : s'.inspectors = s.inspectors)
    (hh : ∀ u, s'.handler u = s.handler u) (hv : ∀ u, s'.saved u = s.saved u) : Aimed s' :=
  ha.same hf hx hv fun u => by rw [hh]; exact ha.handler u

/-- The handler of one thread goes on. -/
theorem moveHandler (ha : Aimed s) (hs : h.Suits s.slot t (s.saved t)) (hf : s'.slot = s.slot)
    (hx : s'.inspectors = s.inspectors)
    (hh : ∀ u, s'.handler u = if u = t then h else s.handler u)
    (hv : ∀ u, s'.saved u = s.saved u) : Aimed s' := by
  refine ha.same hf hx hv fun u => ?_
  rw [hh]
  split
  · rename_i e
    exact e ▸ hs
  · exact ha.handler u

/-- One inspector goes on. -/
theorem moveTo (ha : Aimed s) (hs : p.Sees s.slot s.saved) : Aimed (s.moveTo o p) where
  handler := ha.handler
  inspector x := by
    rw [get_moveTo]
    split
    · exact hs
    · exact ha.inspector x

theorem writes (ha : Aimed s) (hc : Coordinated s) (hl : s.Clears (.advance o))
    (hw : Writes s o f p) : Aimed ((s.onSlot f).moveTo o p) where
  handler t := hw.suits hl hc ha
  inspector x := by
    rw [get_moveTo]
    split
    · exact hw.sees (ha.inspector o)
    · rename_i e
      exact Inspecting.sees_of_not_isInside fun hi => e (hc.alone hw.isInside.1 hi)

theorem stores (ha : Aimed s) (hc : Coordinated s) (hw : Stores s t f h) :
    Aimed ((s.onSlot f).moveHandler t h) where
  handler u := by
    rw [handler_moveHandler, saved_moveHandler]
    split
    · rename_i e
      exact e ▸ hw.suits (ha.handler t)
    · rename_i e
      exact hw.suits_other ha e
  inspector x := by
    have hv : ((s.onSlot f).moveHandler t h).saved = s.saved := funext fun u => saved_moveHandler ..
    rw [hv]
    exact hw.sees hc ha

/-- While the slot is not answered, the registers of a thread are its own affair. -/
theorem onSubject (ha : Aimed s) (hc : Coordinated s) {g : Subject → Subject}
    (hg : (g (s.subjects.get t)).handler.Suits s.slot t (g (s.subjects.get t)).context.registers)
    (hf : s.slot.phase = .paused → ¬ s.IsParked t) : Aimed (s.onSubject t g) where
  handler u := by
    rw [handler_onSubject]
    split
    · rename_i e
      subst e
      rw [saved, get_onSubject, if_pos rfl]
      exact hg
    · rename_i e
      rw [saved, get_onSubject, if_neg e]
      exact ha.handler u
  inspector x := by
    have hi := ha.inspector x
    by_cases hp : s.slot.phase = .paused
    · refine hi.congr_saved fun v hv => ?_
      obtain ⟨u, hu⟩ := hc.anyone (.inl hp)
      have hvu : v = u := Option.some.inj (hv.symm.trans ((ha.handler u).target (.inr hu)))
      have hvt : v ≠ t := fun e => hf hp (e ▸ hvu ▸ hu)
      rw [saved, get_onSubject, if_neg hvt]
      rfl
    · exact hi.unanswered (hc.inspector x) hp hp rfl

theorem happens (ha : Aimed s) (hc : Coordinated s) {g : Subject → Subject}
    (hh : Happens s l t g) : Aimed (s.onSubject t g) := by
  cases hh with
  | runs _ c hf =>
    refine ha.onSubject hc ?_ fun _ hp => ?_
    · rw [show (s.subjects.get t).handler = .out from handler_of_isFree hf]
      trivial
    · rw [IsParked, handler_of_isFree hf] at hp
      exact hp
  | masks | publishes | finishes | leaves =>
    exact ha.unchanged rfl rfl (fun u => s.onSubject_same t u (·.handler) fun _ => rfl)
      fun u => s.onSubject_same t u (·.context.registers) fun _ => rfl

theorem step (ha : Aimed s) (hc : Coordinated s) (hl : s.Clears l) (hs : s.step l = some s') :
    Aimed s' := by
  cases step_transition hs with
  | moves hm => exact ha.moveTo (hm.sees (ha.inspector _))
  | writes hw => exact ha.writes hc hl hw
  | @locks o q =>
    exact (ha.moveTo (o := o) (p := .judging q) trivial).unchanged rfl rfl (fun _ => rfl)
      fun _ => rfl
  | @unlocks o r =>
    exact (ha.moveTo (o := o) (p := .out (some r)) trivial).unchanged rfl rfl (fun _ => rfl)
      fun _ => rfl
  | @signals o q hp =>
    have hi := ha.inspector o
    rw [hp] at hi
    exact (ha.moveTo (p := .timing q) hi).unchanged rfl rfl (fun u => handler_send ..)
      fun u => saved_send ..
  | @shows o =>
    exact (ha.moveTo (o := o) (p := .resuming) trivial).unchanged rfl rfl (fun _ => rfl)
      fun _ => rfl
  | delivers _ _ hf =>
    refine ha.onSubject hc trivial fun _ hp => ?_
    rw [IsParked, handler_of_isFree hf] at hp
    exact hp
  | reads hr =>
    exact ha.moveHandler (hr.suits (ha.handler _)) rfl rfl (fun u => handler_moveHandler ..)
      fun u => saved_moveHandler ..
  | stores hw => exact ha.stores hc hw
  | @restores t k got hp =>
    have hs := ha.handler t
    have hf := hc.handler t
    rw [hp] at hs hf
    refine ha.onSubject hc hs fun he => ?_
    rw [show s.slot.phase = .resume from hf] at he
    cases he
  | strays => exact ha.unchanged rfl rfl (fun u => handler_send ..) fun u => saved_send ..
  | happens hh => exact ha.happens hc hh
  | passes | violates => exact ha.unchanged rfl rfl (fun _ => rfl) fun _ => rfl

end Aimed

/-! ## Refused signals -/

/-- A thread has ended, and its handler is not running. -/
def State.Rests (s : State) (t : Identity) : Prop :=
  (s.subjects.get t).ended = true ∧ s.handler t = .out

/-- A thread that rests is not free to do anything. -/
theorem State.Rests.not_isFree (h : s.Rests t) : ¬ s.isFree t = true := by
  intro hf
  rw [isFree, h.1, Bool.not_true, Bool.and_false] at hf
  cases hf

theorem Reads.handler_ne (hr : Reads s t h) : s.handler t ≠ .out := by
  cases hr <;> simp [*]

theorem Stores.handler_ne (hw : Stores s t f h) : s.handler t ≠ .out := by
  cases hw <;> simp [*]

/-- A thread that rests does so forever. -/
theorem State.Rests.step (h : s.Rests t) (hs : s.step l = some s') : s'.Rests t := by
  have hsend (v : Identity) : (s.send v).Rests t := by
    refine ⟨?_, (handler_send ..).trans h.2⟩
    rw [send, onSubject_same _ _ _ (·.ended) fun y => by split <;> rfl]
    exact h.1
  have hother {y : State} {v : Identity} {g : Subject → Subject} (hy : y.subjects = s.subjects)
      (hv : t ≠ v) : (y.onSubject v g).Rests t := by
    rw [Rests, handler, get_onSubject, if_neg hv, hy]
    exact h
  have hplace {v : Identity} (hn : s.handler v ≠ .out) : t ≠ v := fun e => hn (e ▸ h.2)
  cases step_transition hs with
  | signals => exact hsend _
  | strays => exact hsend _
  | delivers _ _ hf => exact hother rfl fun e => h.not_isFree (e ▸ hf)
  | reads hr => exact hother rfl (hplace hr.handler_ne)
  | stores hw => exact hother rfl (hplace hw.handler_ne)
  | restores hp => exact hother rfl (hplace (by simp [hp]))
  | @happens _ v g hh =>
    refine ⟨?_, (hh.handler t).trans h.2⟩
    rw [get_onSubject]
    split
    · rename_i e
      cases hh <;> first | rfl | exact e ▸ h.1
    · exact h.1
  | moves | writes | locks | unlocks | shows | passes | violates => exact h

/-- A signal is refused for a thread that has ended, and the slot is aimed at that thread until it is
disarmed. -/
structure Refused (s : State) : Prop where
  rests : ∀ t, (s.subjects.get t).ended = true → s.Rests t
  target : ∀ o e, s.inspectors.get o = .disarming e →
    ∃ t, s.slot.target = some t ∧ (s.subjects.get t).ended = true

namespace Refused

theorem step (hr : Refused s) (hc : Coordinated s) (ha : Aimed s) (hs : s.step l = some s') :
    Refused s' where
  rests t he := by
    rcases ended_of_step hs he with he | ⟨hf, -, rfl⟩
    · exact (hr.rests t he).step hs
    · refine ⟨he, ?_⟩
      rw [handler_onSubject, if_pos rfl]
      exact handler_of_isFree hf
  target o e hp := by
    rcases step_turn hs o with ⟨f, ht, hf⟩ | ⟨hx, -⟩
    · rw [hp] at ht
      cases ht with
      | moves hm =>
        cases hm with
        | refused hq he =>
          have hi := ha.inspector o
          rw [hq] at hi
          exact ⟨_, hf ▸ hi.1, ((hr.rests _ he).step hs).1⟩
      | writes hw => cases hw
    · rw [hx] at hp
      obtain ⟨t, ht, he⟩ := hr.target o e hp
      refine ⟨t, ?_, ((hr.rests t he).step hs).1⟩
      rw [target_of_step hs, aims?_of_isInside hc.lock (by rw [hp]; trivial) (by rw [hp]; nofun)]
      exact ht

/-- Only the target might have answered, and it has ended. -/
theorem strands (hr : Refused s) (hc : Coordinated s) (ha : Aimed s) : s.strands l = false := by
  rw [Bool.eq_false_iff]
  intro hst
  obtain ⟨o, e, -, hp, hf⟩ := exists_disarming hst
  have hi := hc.inspector o
  rw [hp] at hi
  obtain ⟨t, ht, he⟩ := hr.target o e hp
  obtain ⟨u, hu⟩ := hc.anyone (.inl (hi.resolve_left hf))
  obtain rfl := Option.some.inj (((ha.handler u).target (.inr hu)).symm.trans ht)
  rw [IsParked, (hr.rests u he).2] at hu
  exact hu

end Refused

/-! ## Whole runs -/

theorem State.Quiet.aimed (h : s.Quiet) : Aimed s where
  handler t := by
    rw [h.handler]
    trivial
  inspector o := by
    obtain ⟨r, hr⟩ := isOut_iff.mp (h.out o)
    rw [hr]
    trivial

theorem State.Quiet.refused (h : s.Quiet) : Refused s where
  rests t he := ⟨he, h.handler t⟩
  target o e hp := by
    obtain ⟨r, hr⟩ := isOut_iff.mp (h.out o)
    cases hr.symm.trans hp

/-- What holds in every state of a run in which nobody is ahead when the slot is aimed. -/
structure Targeted (s : State) : Prop where
  coordinated : Coordinated s
  aimed : Aimed s
  refused : Refused s

theorem Run.targeted (h : Run s₀ past s) (h₀ : s₀.Quiet)
    (hs : ∀ x ∈ past, x.before.Serves x.label) (hl : ∀ x ∈ past, x.before.Clears x.label) :
    Targeted s := by
  induction h with
  | start => exact ⟨h₀.coordinated, h₀.aimed, h₀.refused⟩
  | step l _ hx ih =>
    rw [List.forall_mem_cons] at hs hl
    obtain ⟨hc, ha, hr⟩ := ih hs.2 hl.2
    exact ⟨hc.step hs.1 (hr.strands hc ha) hx, ha.step hc hl.1 hx, hr.step hc ha hx⟩

/-- The thread that an inspector has stopped, and not let go yet. -/
def Inspecting.stopped? : Inspecting → Option Identity
  | .capturing q _ _ | .holding q _ | .overwriting q _ _ | .marking q _ => some q.target
  | _ => none

/-- Whom an inspector stops, and what it reads. -/
structure Stops (s : State) : Prop where
  /-- The target is parked, and nobody else. -/
  target : ∀ o v, (s.inspectors.get o).stopped? = some v → ∀ t, s.IsParked t ↔ t = v
  /-- What the inspector holds are the registers with which the target was stopped. -/
  held : ∀ o q k got r s', s.step (.advance o) = some s' →
    s.inspectors.get o = .capturing q k got → s'.inspectors.get o = .holding q r →
    r = s.saved q.target
  /-- What a visitor is shown are the registers with which the target was stopped. -/
  shown : ∀ o v r l s', s.step l = some s' → s'.visits = (o, v, r) :: s.visits → r = s.saved v

theorem Aimed.target (ha : Aimed s) (hc : Coordinated s) {v : Identity}
    (hv : (s.inspectors.get o).stopped? = some v) : s.IsParked t ↔ t = v := by
  have hi := ha.inspector o
  have hf := hc.inspector o
  have hst : s.slot.target = some v ∧ s.slot.phase = .paused := by
    cases hp : s.inspectors.get o <;> rw [hp] at hv hi hf <;> cases hv
    · exact ⟨hi.1, hf⟩
    all_goals exact ⟨hi, hf⟩
  obtain ⟨u, hu⟩ := hc.anyone (.inl hst.2)
  obtain rfl := Option.some.inj (((ha.handler u).target (.inr hu)).symm.trans hst.1)
  exact ⟨fun ht => hc.one t u ht hu, fun e => e ▸ hu⟩

theorem Aimed.read (ha : Aimed s) {q : Request} {k : Slice} {got : Registers}
    (hp : s.inspectors.get o = .capturing q k got) (hk : k.next? = none) :
    k.put got (k.of s.slot.registers) = s.saved q.target := by
  have hi := ha.inspector o
  rw [hp] at hi
  rw [hi.2.1]
  exact hi.2.2.all hk

theorem step_capturing {q : Request} {k : Slice} {got : Registers}
    (hs : s.step (.advance o) = some s') (hp : s.inspectors.get o = .capturing q k got) :
    (∃ k', k.next? = some k' ∧
        s' = s.moveTo o (.capturing q k' (k.put got (k.of s.slot.registers)))) ∨
      (k.next? = none ∧ s' = s.captured o q (k.put got (k.of s.slot.registers))) := by
  have ha := (advance_of_step hs).2
  rw [State.advance, hp] at ha
  cases hk : k.next? with
  | some k' =>
    simp only [hk, Option.some.injEq] at ha
    exact .inl ⟨k', rfl, ha.symm⟩
  | none =>
    simp only [hk, Option.some.injEq] at ha
    exact .inr ⟨rfl, ha.symm⟩

theorem Aimed.held (ha : Aimed s) {q : Request} {k : Slice} {got r : Registers}
    (hs : s.step (.advance o) = some s') (hp : s.inspectors.get o = .capturing q k got)
    (hr : s'.inspectors.get o = .holding q r) : r = s.saved q.target := by
  rcases step_capturing hs hp with ⟨k', -, rfl⟩ | ⟨hk, rfl⟩
  · rw [get_moveTo, if_pos rfl] at hr
    cases hr
  · unfold captured at hr
    split at hr <;> rw [get_moveTo, if_pos rfl] at hr <;> cases hr
    exact ha.read hp hk

theorem Aimed.shown (ha : Aimed s) {v : Identity} {r : Registers} (hs : s.step l = some s')
    (hr : s'.visits = (o, v, r) :: s.visits) : r = s.saved v := by
  cases step_transition hs with
  | shows hp hk =>
    obtain ⟨he, -⟩ := List.cons.inj hr
    cases he
    exact ha.read hp hk
  | _ => exact absurd hr.symm (List.cons_ne_self _ _)

/-- **It is the target that is stopped**, in every run from a quiet state in which the operating system
serves the inspectors, and in which no handler of an earlier request is ahead when the slot is aimed. -/
theorem Run.stops (h : Run s₀ past s) (h₀ : s₀.Quiet)
    (hs : ∀ x ∈ past, x.before.Serves x.label) (hl : ∀ x ∈ past, x.before.Clears x.label) :
    Stops s := by
  obtain ⟨hc, ha, -⟩ := h.targeted h₀ hs hl
  exact ⟨fun _ _ hv _ => ha.target hc hv, fun _ _ _ _ _ _ hx hp hr => ha.held hx hp hr,
    fun _ _ _ _ _ hx hr => ha.shown hx hr⟩

/-! ### An abandoned request, and the next one -/

theorem clears_of_cells (h : s.aims? l = none ∨ ∀ y ∈ s.subjects.cells, ¬ y.handler.IsAhead) :
    s.Clears l := by
  unfold State.Clears
  split
  · split
    · rename_i hp
      exact Row.forall_get (p := fun y : Subject => ¬ y.handler.IsAhead) id
        (h.resolve_left (by simp [aims?, hp]))
    · trivial
  · trivial

/-- Thread 0 gives up a request for thread 1, which keeps the signal out meanwhile. It lets the signal in
when thread 0 is about to stop thread 2. -/
def retry : List Label :=
  .mask 1 true :: .ask 0 0 ⟨1, 0, false⟩ :: List.replicate 12 (.advance 0) ++
    .run 2 ((Context.zero.set .rip 3).set .rsp 5) :: .ask 0 0 ⟨2, 0, false⟩ ::
      List.replicate 6 (.advance 0) ++
    .mask 1 false :: .deliver 1 :: List.replicate 2 (.handle 1) ++
    .advance 0 :: .deliver 2 :: List.replicate 7 (.handle 2) ++ List.replicate 5 (.advance 0)

theorem stops_retry : ∃ past s, Run trio past s ∧ trio.Quiet ∧
    (∀ x ∈ past, x.before.Serves x.label) ∧ (∀ x ∈ past, x.before.Clears x.label) ∧
    s.inspectors.get 0 = .holding ⟨2, 0, false⟩ ⟨3, 0, 5⟩ ∧ s.IsParked 2 ∧ Stops s := by
  obtain ⟨past, s, h, hp⟩ := Machine.exists_run State.step trio
    (fun past s => past.all (fun x => decide (x.before.Serves x.label)) ∧
      past.all (fun x => decide (x.before.aims? x.label = none ∨
        ∀ y ∈ x.before.subjects.cells, ¬ y.handler.IsAhead)) ∧
      s.inspectors.get 0 = .holding ⟨2, 0, false⟩ ⟨3, 0, 5⟩ ∧ (s.handler 2).IsParked)
    retry (by decide)
  simp only [List.all_eq_true, decide_eq_true_eq] at hp
  obtain ⟨hs, hl, hi, hpark⟩ := hp
  have hl' : ∀ x ∈ past, x.before.Clears x.label := fun x hx => clears_of_cells (hl x hx)
  exact ⟨past, s, h, quiet_trio, hs, hl', hi, hpark, Run.stops h quiet_trio hs hl'⟩

/-- An inspector holds thread 2, as it believes; but it is thread 1 that is parked, with a handler
that was ahead when the slot was aimed. -/
theorem stops_other : ∃ past s, Run trio past s ∧ trio.Quiet ∧
    (∀ x ∈ past, x.before.Serves x.label) ∧
    s.inspectors.get 0 = .holding ⟨2, 0, false⟩ .zero ∧ s.IsParked 1 ∧ ¬ s.IsParked 2 := by
  obtain ⟨past, s, h, hp⟩ := Machine.exists_run State.step trio
    (fun past s => past.all (fun x => decide (x.before.Serves x.label)) ∧
      s.inspectors.get 0 = .holding ⟨2, 0, false⟩ .zero ∧ (s.handler 1).IsParked ∧
      ¬ (s.handler 2).IsParked)
    (giveUp ++ answerLate ++ List.replicate 6 (.advance 0)) (by decide)
  simp only [List.all_eq_true, decide_eq_true_eq] at hp
  exact ⟨past, s, h, quiet_trio, hp⟩

end VmHost.Inspect
