import VmHost.Proofs.Inspect.Withdrawal
import VmHost.Proofs.Inspect.Registers
import VmHost.Config

/-!
# A suspend returns

An inspector waits for its target until a deadline, which it computes once the signal has been sent. If
the clock can express the deadline, then the inspection goes on until the target is held or the
inspection has failed, whatever the target, strangers and handlers of earlier requests do.

* `Attends`: while an inspector has the mutex, its OS thread is not stopped by others. It has to be
  asked in the name of its own thread for this (`Label.isOwn`).
* `Inspecting.left`: how many steps an inspector has to go, if its deadline is over.
* `Run.returns`: an inspector can always go on, it is done after so many steps and two more for every
  look at the clock before the deadline, and it leaves the slot disarmed if it fails.
* `isSome_deadline?_iff`: the deadlines that the clock can express. A timeout from the environment is never
  too long (`isSome_deadline?_ofEnvironment`), but one that is accepted may be (`returns_not`).
-/
namespace VmHost.Inspect

open State

/-- If an OS thread is asked to stop a target, then in the name of the thread that it runs. -/
def Label.isOwn (o : OsThread) : Label → Bool
  | .ask x c _ => x ≠ o || c = o
  | _ => true

namespace Inspecting

/-- The inspection has begun. It has not failed so far, and the target is not held. -/
def IsAsking : Inspecting → Prop
  | .out _ | .holding .. | .overwriting .. | .marking .. | .resuming | .draining
  | .unlocking .resumed | .unlocking .overflowed => False
  | _ => True

/-- The target that the slot will be aimed at. -/
def toAim? : Inspecting → Option Identity
  | .locking q | .judging q | .resolving q | .aiming q => some q.target
  | _ => none

/-- How many steps an inspector has to go until it holds its target or has failed, if its deadline is
over. The slot has this phase. -/
def left (f : Phase) : Inspecting → Nat
  | .locking _ => 15
  | .judging _ => 14
  | .resolving _ => 13
  | .aiming _ => 12
  | .clearing _ => 11
  | .arming _ => 10
  | .signalling _ => 9
  | .timing _ => 8
  | .polling .. => if f = .requested then 7 else 4
  | .weighing .. => 6
  | .withdrawing .. => 5
  | .capturing _ .ip _ => 3
  | .capturing _ .frame _ => 2
  | .capturing _ .stack _ => 1
  | .disarming _ => 2
  | .confused => 2
  | .unlocking (.failed _) => 1
  | _ => 0

/-- The inspection has failed, or the target has been stopped. -/
def IsAnswer : Inspecting → Prop
  | .out (some (.failed _)) | .holding .. | .resuming => True
  | _ => False

end Inspecting

/-- An OS thread takes a step of its inspection. -/
def stepsAt (o : OsThread) (m : Moment) : Bool := m.label.inspector? = some o

/-- An OS thread looks at the clock, and its deadline is not over. -/
def looksEarly (o : OsThread) (m : Moment) : Bool :=
  stepsAt o m &&
    match m.before.inspectors.get o with
    | .weighing _ d => m.before.now < d
    | _ => false

/-- What an OS thread can count on while it inspects. -/
structure Attends (s : State) (o : OsThread) : Prop where
  lives : s.isOut o = false → (s.subjects.get o).ended = false
  other : ∀ t, (s.inspectors.get o).toAim? = some t → t ≠ o
  spared : (s.inspectors.get o).IsInside → Spared s o

/-- An inspection gets to its end. -/
structure Returns (s : State) (o : OsThread) : Prop where
  /-- It begins when the OS thread is asked to stop another thread than its own. -/
  begins : ∀ q s', q.target ≠ o → s.step (.ask o o q) = some s' →
    s'.violation = none ∧ s'.inspectors.get o = .locking q
  /-- Going on, it breaks no rule, -/
  safe : ∀ s', s.step (.advance o) = some s' → s'.violation = none
  /-- and it can go on, once it has the mutex or can take it, or else its own handler can. -/
  goesOn : s.violation = none → (s.inspectors.get o).IsAsking →
    (s.inspectors.get o).IsInside ∨ s.lock.holder = none →
    (∃ s', s.step (.advance o) = some s') ∨ s.handler o ≠ .out ∧ ∃ s', s.step (.handle o) = some s'
  /-- While it has the mutex, the signal costs it two steps of its own handler at most. -/
  brief : (s.inspectors.get o).IsInside → ∀ s', s.step (.handle o) = some s' →
    s'.handler o = .out ∨ s'.handler o = .matching ∧ s.handler o = .entered
  /-- It does not take long, apart from what it waits for its deadline, -/
  paced : ∀ past₂ s', Run s past₂ s' → (∀ m ∈ past₂, (m.before.inspectors.get o).IsAsking) →
    past₂.countP (stepsAt o) + (s'.inspectors.get o).left s'.slot.phase ≤
      (s.inspectors.get o).left s.slot.phase + 2 * past₂.countP (looksEarly o)
  /-- and then there is an answer. -/
  answers : ∀ l s', s.isTimely l = true → s.step l = some s' → (s.inspectors.get o).IsAsking →
    ¬ (s'.inspectors.get o).IsAsking → (s'.inspectors.get o).IsAnswer
  /-- Where it has failed, the slot is idle, -/
  idle : ∀ e, s.inspectors.get o = .unlocking (.failed e) → s.slot.phase = .idle
  /-- nobody is parked before the slot is aimed again who was not parked, -/
  disarmed : ∀ e, s.inspectors.get o = .unlocking (.failed e) → ∀ t past₂ s', Run s past₂ s' →
    (∀ m ∈ past₂, m.before.aims? m.label = none) → s'.IsParked t → s.IsParked t
  /-- and a thread whose handler has not looked at the slot by then is not parked before the slot is
  aimed at it again. -/
  spares : ∀ e, s.inspectors.get o = .unlocking (.failed e) → ∀ t,
    s.handler t = .out ∨ s.handler t = .entered → ∀ past₂ s', Run s past₂ s' →
    (∀ m ∈ past₂, m.before.aims? m.label ≠ some t) → ¬ s'.IsParked t

variable {s₀ s s' : State} {l : Label} {o x : OsThread} {t u : Identity} {p : Inspecting}
  {h : Handling} {f : Slot → Slot} {past past₂ : List Moment} {q : Request}

/-! ## What an inspector can count on -/

theorem exists_locking (hi : (s.inspectors.get o).IsAsking) (hn : ¬ (s.inspectors.get o).IsInside) :
    ∃ q, s.inspectors.get o = .locking q := by
  cases hp : s.inspectors.get o with
  | locking q => exact ⟨q, rfl⟩
  | out r =>
    rw [hp] at hi
    exact hi.elim
  | _ =>
    rw [hp] at hn
    exact absurd trivial hn

theorem isOut_of_isAsking (hi : (s.inspectors.get o).IsAsking) : s.isOut o = false := by
  rw [Bool.eq_false_iff]
  intro ho
  obtain ⟨r, hr⟩ := isOut_iff.mp ho
  rw [hr] at hi
  exact hi

/-- An OS thread is asked to inspect only while its own handler is not running. -/
theorem isFree_of_ask {c : Identity} (hs : s.step (.ask o c q) = some s') : s.isFree o = true := by
  simp only [State.step] at hs
  split at hs
  · cases hs
  · split at hs
    · rename_i hg
      exact hg.2
    · cases hs

theorem ended_of_isFree (h : s.isFree o = true) : (s.subjects.get o).ended = false := by
  simp only [isFree, Bool.and_eq_true, Bool.not_eq_true'] at h
  exact h.2

/-- Nobody gets inside but by taking the mutex. -/
theorem isInside_of_step (hs : s.step l = some s') (hi : (s'.inspectors.get o).IsInside) :
    (s.inspectors.get o).IsInside ∨
      l = .advance o ∧ s.lock.holder = none ∧ ∃ q, s.inspectors.get o = .locking q := by
  rcases step_turn hs o with ⟨f, ht, -⟩ | ⟨he, -⟩
  · generalize s'.inspectors.get o = p at ht hi
    cases ht with
    | moves hm => exact .inl (hm.isInside.mpr hi)
    | writes hw => exact .inl hw.isInside.1
    | locks hp hn => exact .inr ⟨rfl, hn, _, hp⟩
    | unlocks => exact hi.elim
    | signals hp | shows hp =>
      rw [hp]
      exact .inl trivial
  · rw [he] at hi
    exact .inl hi

/-- An OS thread begins an inspection while its own handler is not running. -/
theorem isOut_of_step (hs : s.step l = some s') (ho : s.isOut o = true) (hn : s'.isOut o = false) :
    s.isFree o = true := by
  obtain ⟨r, hr⟩ := isOut_iff.mp ho
  rcases step_turn hs o with ⟨f, ht, -⟩ | ⟨he, -⟩
  · generalize s'.inspectors.get o = p at ht
    cases ht with
    | moves hm =>
      cases hm with
      | asks => exact isFree_of_ask hs
      | _ => simp_all
    | writes hw => cases hw <;> simp_all
    | locks | unlocks | signals | shows => simp_all
  · rw [isOut_iff.mpr ⟨r, he.trans hr⟩] at hn
    cases hn

/-- The target that the slot will be aimed at is the one that the inspector was asked for. -/
theorem toAim?_of_step (hs : s.step l = some s') (ht : (s'.inspectors.get o).toAim? = some t) :
    (s.inspectors.get o).toAim? = some t ∨ ∃ c q, l = .ask o c q ∧ c ≠ q.target ∧ q.target = t := by
  rcases step_turn hs o with ⟨f, hturn, -⟩ | ⟨he, -⟩
  · generalize s'.inspectors.get o = p at hturn ht
    cases hturn with
    | moves hm =>
      cases hm with
      | asks hp hc => exact .inr ⟨_, _, rfl, hc, Option.some.inj ht⟩
      | finds hp | resolves hp =>
        rw [hp]
        exact .inl ht
      | _ => cases ht
    | writes hw => cases hw <;> cases ht
    | locks hp =>
      rw [hp]
      exact .inl ht
    | unlocks | signals | shows => cases ht
  · rw [he] at ht
    exact .inl ht

namespace Attends

/-- While an inspector is inside, nobody aims the slot at its own thread. -/
theorem aims?_ne (ha : Attends s o) (hc : Exclusive s) (hi : (s.inspectors.get o).IsInside) :
    s.aims? l ≠ some o := by
  intro h
  obtain ⟨x, q, -, hp, hq⟩ := exists_aiming h
  obtain rfl := hc.alone hi (x := x) (by rw [hp]; trivial)
  exact ha.other _ (by rw [hp]; rfl) hq

theorem step (ha : Attends s o) (ht : Tidy s) (hl : l.isOwn o = true) (hs : s.step l = some s') :
    Attends s' o where
  lives ho := by
    rw [Bool.eq_false_iff]
    intro he
    rcases ended_of_step hs he with he | ⟨-, ho', rfl⟩
    · cases hout : s.isOut o with
      | false => cases he.symm.trans (ha.lives hout)
      | true => cases he.symm.trans (ended_of_isFree (isOut_of_step hs hout ho))
    · cases ho.symm.trans ho'
  other t h := by
    rcases toAim?_of_step hs h with h | ⟨c, q, rfl, hc, rfl⟩
    · exact ha.other t h
    · intro e
      exact hc (Eq.trans (by simpa [Label.isOwn] using hl) e.symm)
  spared hi := by
    rcases isInside_of_step hs hi with hi | ⟨rfl, hn, q, hp⟩
    · exact (ha.spared hi).step hs (ha.aims?_ne ht.exclusive hi)
    · have hout := handler_of_isFree (isFree_of_advance hs)
      apply (Spared.of_disarmed (ht.disarmed_of_free hn) (.inl hout)).step hs
      simp [aims?, hp]

end Attends

theorem Run.attends (hr : Run s₀ past s) (h₀ : s₀.Quiet)
    (hk : ∀ m ∈ past, m.before.isTimely m.label = true) (hl : ∀ m ∈ past, m.label.isOwn o = true) :
    Attends s o := by
  induction hr with
  | start =>
    obtain ⟨r, hr⟩ := isOut_iff.mp (h₀.out o)
    refine ⟨fun hn => ?_, fun t ht => ?_, fun hi => ?_⟩
    · rw [h₀.out o] at hn
      cases hn
    · rw [hr] at ht
      cases ht
    · rw [hr] at hi
      exact hi.elim
  | step l hr hs ih =>
    rw [List.forall_mem_cons] at hk hl
    exact (ih hk.2 hl.2).step (Run.tidy hr h₀ hk.2) hl.1 hs

/-! ## Going on -/

/-- An inspection that is under way can go on. -/
theorem exists_advance (hi : (s.inspectors.get o).IsAsking)
    (hl : (s.inspectors.get o).IsInside ∨ s.lock.holder = none) : ∃ s', s.advance o = some s' := by
  cases hp : s.inspectors.get o with
  | locking q =>
    have hn : s.lock.holder = none := hl.resolve_left (by rw [hp]; exact id)
    simp only [advance, hp, takeLock, (Mutex.take_eq_taken_iff ..).mpr ⟨hn, rfl⟩]
    exact ⟨_, rfl⟩
  | out | holding | overwriting | marking | resuming | draining =>
    rw [hp] at hi
    exact hi.elim
  | timing q =>
    simp only [advance, hp]
    split <;> exact ⟨_, rfl⟩
  | polling q d =>
    simp only [advance, hp]
    split <;> exact ⟨_, rfl⟩
  | withdrawing q d gone =>
    simp only [advance, hp]
    split <;> exact ⟨_, rfl⟩
  | capturing q k got =>
    simp only [advance, hp]
    split <;> exact ⟨_, rfl⟩
  | judging | resolving | aiming | clearing | arming | signalling | disarming | weighing | confused
  | unlocking =>
    simp only [advance, hp]
    exact ⟨_, rfl⟩

/-- A handler that runs can go on, if the phase lets those go on that are parked. -/
theorem exists_handle (hh : s.handler t ≠ .out) (hf : s.handler t = .parked → s.slot.phase ≠ .paused) :
    ∃ s', s.handle t = some s' := by
  have hx : (s.subjects.get t).handler = s.handler t := rfl
  cases hp : s.handler t with
  | out => exact absurd hp hh
  | parked =>
    simp only [State.handle, hx, hp, if_neg (hf hp)]
    exact ⟨_, rfl⟩
  | answering =>
    simp only [State.handle, hx, hp]
    split <;> exact ⟨_, rfl⟩
  | reloading k got =>
    simp only [State.handle, hx, hp]
    split <;> exact ⟨_, rfl⟩
  | entered | matching | storing | clearing | checking | releasing =>
    simp only [State.handle, hx, hp]
    exact ⟨_, rfl⟩

/-- The handler of a spared thread comes to its end. -/
theorem Spared.brief (hp : Spared s t) (hs : s.step (.handle t) = some s') :
    s'.handler t = .out ∨ s'.handler t = .matching ∧ s.handler t = .entered := by
  cases step_transition hs with
  | reads hr =>
    rw [handler_moveHandler, if_pos rfl]
    rcases hp.reads hr with rfl | rfl | ⟨rfl, -⟩
    · exact .inl rfl
    · cases hr
    · cases hr with
      | notices hi => exact .inr ⟨rfl, hi⟩
  | stores hw => exact absurd hw hp.not_stores
  | restores hi => rcases hp.handler with h | h | ⟨h, -⟩ <;> cases hi.symm.trans h
  | moves hm => cases hm
  | happens hh => cases hh
  | violates hb => cases hb

/-- An OS thread goes on with its inspection, or its own handler does. -/
theorem Attends.goesOn (ha : Attends s o) (ht : Tidy s) (hv : s.violation = none)
    (hi : (s.inspectors.get o).IsAsking)
    (hl : (s.inspectors.get o).IsInside ∨ s.lock.holder = none) :
    (∃ s', s.step (.advance o) = some s') ∨
      s.handler o ≠ .out ∧ ∃ s', s.step (.handle o) = some s' := by
  by_cases hh : s.handler o = .out
  · have hfree : s.isFree o = true := by
      simp only [isFree, ha.lives (isOut_of_isAsking hi), Bool.not_false, Bool.and_true,
        decide_eq_true_eq]
      exact hh
    obtain ⟨s', hs⟩ := exists_advance hi hl
    refine .inl ⟨s', ?_⟩
    simp only [State.step, hv, inspect, hfree, hs]
    rfl
  · have hf : s.handler o = .parked → s.slot.phase ≠ .paused := by
      intro hp
      rcases hl with hin | hn
      · have hnp := (ha.spared hin).not_isParked
        rw [IsParked, hp] at hnp
        exact absurd trivial hnp
      · simp [ht.idle hn]
    refine .inr ⟨hh, ?_⟩
    rw [step_handle hv]
    exact exists_handle hh hf

/-! ## How long it takes -/

namespace Inspecting

/-- An inspector has no longer to go when the slot is no longer armed. -/
theorem left_mono {p : Inspecting} {f f' : Phase} (h : f' = f ∨ f' ≠ .requested) :
    p.left f' ≤ p.left f := by
  cases p with
  | polling q d =>
    show (if f' = .requested then 7 else 4) ≤ (if f = .requested then 7 else 4)
    rcases h with rfl | h
    · exact Nat.le_refl _
    · rw [if_neg h]
      split <;> omega
  | capturing q k got => cases k <;> exact Nat.le_refl _
  | unlocking r => cases r <;> exact Nat.le_refl _
  | _ => exact Nat.le_refl _

end Inspecting

theorem stepsAt_of_ne (h : l.inspector? ≠ some o) : stepsAt o ⟨s, l, s'⟩ = false :=
  decide_eq_false h

theorem looksEarly_of_weighing {d : Nat} (hp : s.inspectors.get o = .weighing q d) (hd : s.now < d) :
    looksEarly o ⟨s, .advance o, s'⟩ = true := by
  simp [looksEarly, stepsAt, Label.inspector?, hp, hd]

/-- Every step of an inspection brings it nearer to its end, but for a look at the clock before the
deadline. -/
theorem Turn.left (ht : Turn s o l f p) (hi : (s.inspectors.get o).IsAsking) :
    1 + p.left (f s.slot).phase ≤ (s.inspectors.get o).left s.slot.phase +
      2 * (if looksEarly o ⟨s, l, s'⟩ = true then 1 else 0) := by
  cases ht with
  | moves hm =>
    cases hm with
    | asks hp | rewrites hp | resumes hp | drains hp =>
      rw [hp] at hi
      exact hi.elim
    | @persists q d hp hd =>
      rw [if_pos (looksEarly_of_weighing hp hd), hp]
      show 1 + (if s.slot.phase = .requested then 7 else 4) ≤ 8
      split <;> omega
    | times hp | finds hp | finished hp | resolves hp | unresolved hp | refused hp | overflows hp
    | despairs hp =>
      apply Nat.le_add_right_of_le
      rw [hp]
      simp only [Inspecting.left]
      first | omega | (split <;> omega)
    | meets hp hf | waits hp hf | answered hp hf =>
      apply Nat.le_add_right_of_le
      rw [hp]
      simp [Inspecting.left, hf]
    | wonders hp hf =>
      apply Nat.le_add_right_of_le
      rw [hp]
      rcases hf with hf | hf <;> simp [Inspecting.left, hf]
    | @captures q k k' got hp hk =>
      apply Nat.le_add_right_of_le
      rw [hp]
      cases k <;> cases hk <;> exact Nat.le_refl _
    | @holds q k got hp hk =>
      apply Nat.le_add_right_of_le
      rw [hp]
      cases k <;> cases hk
      exact Nat.le_refl _
  | writes hw =>
    apply Nat.le_add_right_of_le
    cases hw with
    | overwrites hp | overwritten hp | marks hp | resumes hp =>
      rw [hp] at hi
      exact hi.elim
    | aims hp | clears hp | arms hp | disarms hp | withdraws hp | resets hp =>
      rw [hp]
      simp [Inspecting.left]
  | locks hp | signals hp =>
    apply Nat.le_add_right_of_le
    rw [hp]
    exact Nat.le_refl _
  | @unlocks r hp =>
    apply Nat.le_add_right_of_le
    rw [hp] at hi ⊢
    cases r with
    | failed => exact Nat.le_refl _
    | resumed | overflowed => exact hi.elim
  | @shows q k got hp hk =>
    apply Nat.le_add_right_of_le
    rw [hp]
    cases k <;> cases hk
    exact Nat.le_refl _

/-- The phase turns to requested where an inspector arms the slot. -/
theorem phase_of_step (hs : s.step l = some s') : s'.slot.phase = s.slot.phase ∨
    s'.slot.phase ≠ .requested ∨
      ∃ x q, s.inspectors.get x = .arming q ∧ s'.inspectors.get x = .signalling q := by
  cases step_transition hs with
  | @writes x f p hw =>
    cases hw with
    | arms hp => exact .inr (.inr ⟨x, _, hp, by rw [get_moveTo, if_pos rfl]⟩)
    | disarms | withdraws | resets | resumes => exact .inr (.inl nofun)
    | aims | clears | overwrites | overwritten | marks => exact .inl rfl
  | stores hw =>
    rcases hw.phase with hf | ⟨-, hf⟩ | hf
    · exact .inl hf
    · exact .inr (.inl fun e => by cases hf.symm.trans e)
    · exact .inr (.inl fun e => by cases hf.symm.trans e)
  | _ => exact .inl rfl

/-- The steps of others do not make an inspection longer. -/
theorem left_of_same (hc : Exclusive s) (hs : s.step l = some s')
    (he : s'.inspectors.get o = s.inspectors.get o) (hi : (s.inspectors.get o).IsAsking) :
    (s'.inspectors.get o).left s'.slot.phase ≤ (s.inspectors.get o).left s.slot.phase := by
  rw [he]
  rcases phase_of_step hs with hf | hf | ⟨x, q, hx, hx'⟩
  · exact Inspecting.left_mono (.inl hf)
  · exact Inspecting.left_mono (.inr hf)
  · by_cases hin : (s.inspectors.get o).IsInside
    · obtain rfl := hc.alone hin (x := x) (by rw [hx]; trivial)
      cases hx.symm.trans (he.symm.trans hx')
    · obtain ⟨q', hq⟩ := exists_locking hi hin
      rw [hq]
      exact Nat.le_refl _

/-- An inspection that is under way breaks no rule. -/
theorem not_breaks_of_isAsking (hc : Exclusive s) (hi : (s.inspectors.get o).IsAsking)
    {v : Violation} : ¬ Breaks s l o v := by
  intro hb
  cases hb with
  | self hp =>
    rw [hp] at hi
    exact hi
  | relocks hp hh => exact hc.not_breaks (.relocks hp hh)
  | unlocks hp hh => exact hc.not_breaks (.unlocks hp hh)

/-- A step of an inspection brings it nearer to its end, and those of others do not keep it from it. -/
theorem left_of_step (hc : Exclusive s) (hs : s.step l = some s')
    (hi : (s.inspectors.get o).IsAsking) :
    (if stepsAt o ⟨s, l, s'⟩ = true then 1 else 0) + (s'.inspectors.get o).left s'.slot.phase ≤
      (s.inspectors.get o).left s.slot.phase +
        2 * (if looksEarly o ⟨s, l, s'⟩ = true then 1 else 0) := by
  rcases step_turn hs o with ⟨f, ht, hf⟩ | ⟨he, hv⟩
  · have hle : 1 + _ ≤ _ + 2 * (if looksEarly o ⟨s, l, s'⟩ = true then 1 else 0) := ht.left hi
    rw [hf]
    split <;> omega
  · have hle := left_of_same hc hs he hi
    have hn : l.inspector? ≠ some o := by
      intro h
      obtain ⟨v, hb⟩ := hv h
      exact not_breaks_of_isAsking hc hi hb
    rw [stepsAt_of_ne hn]
    simp only [Bool.false_eq_true, if_false]
    omega

theorem begins_of_ask (hs : s.step (.ask o o q) = some s') (hq : q.target ≠ o) :
    s'.violation = none ∧ s'.inspectors.get o = .locking q := by
  have hv := violation_of_step hs
  cases step_transition hs with
  | moves hm =>
    cases hm with
    | asks => exact ⟨hv, by rw [get_moveTo, if_pos rfl]⟩
  | violates hb =>
    cases hb with
    | self _ hself => exact absurd (hself.elim Eq.symm (·.2)) hq
  | happens hh => cases hh

/-- An inspection that comes to its end has an answer, if the clock can express its deadline. -/
theorem isAnswer_of_step (hk : s.isTimely l = true) (hs : s.step l = some s')
    (hi : (s.inspectors.get o).IsAsking) (hn : ¬ (s'.inspectors.get o).IsAsking) :
    (s'.inspectors.get o).IsAnswer := by
  rcases step_turn hs o with ⟨f, ht, -⟩ | ⟨he, -⟩
  · generalize s'.inspectors.get o = p at ht hn ⊢
    cases ht with
    | moves hm =>
      cases hm with
      | asks hp | rewrites hp | drains hp =>
        rw [hp] at hi
        exact hi.elim
      | overflows hp hd =>
        simp [isTimely, hp, hd] at hk
      | holds | resumes => trivial
      | _ => exact absurd trivial hn
    | writes hw =>
      cases hw with
      | overwrites hp | overwritten hp | marks hp | resumes hp =>
        rw [hp] at hi
        exact hi.elim
      | _ => exact absurd trivial hn
    | @unlocks r hp =>
      rw [hp] at hi
      cases r with
      | failed => trivial
      | resumed | overflowed => exact hi.elim
    | shows => trivial
    | locks | signals => exact absurd trivial hn
  · rw [he] at hn
    exact absurd hi hn

/-! ## Whole runs -/

theorem Run.paced (hr : Run s past₂ s') (hc : Exclusive s)
    (hi : ∀ m ∈ past₂, (m.before.inspectors.get o).IsAsking) :
    past₂.countP (stepsAt o) + (s'.inspectors.get o).left s'.slot.phase ≤
      (s.inspectors.get o).left s.slot.phase + 2 * past₂.countP (looksEarly o) := by
  induction hr with
  | start => simp
  | step l hr hs ih =>
    rw [List.forall_mem_cons] at hi
    have hle := ih hi.2
    have hstep := left_of_step (hc.run hr) hs hi.1
    rw [List.countP_cons, List.countP_cons]
    omega

/-- **A suspend returns**, in every run from a quiet state in which the clock can express all deadlines
and the OS thread is asked in the name of its own thread. -/
theorem Run.returns (h : Run s₀ past s) (h₀ : s₀.Quiet)
    (hk : ∀ m ∈ past, m.before.isTimely m.label = true) (hl : ∀ m ∈ past, m.label.isOwn o = true) :
    Returns s o := by
  have ht : Tidy s := Run.tidy h h₀ hk
  have ha : Attends s o := Run.attends h h₀ hk hl
  exact {
    begins := fun _ _ hq hs => begins_of_ask hs hq
    safe := fun _ => ht.exclusive.violation_advance
    goesOn := fun hv => ha.goesOn ht hv
    brief := fun hin _ => (ha.spared hin).brief
    paced := fun _ _ hr => Run.paced hr ht.exclusive
    answers := fun _ _ => isAnswer_of_step
    idle := fun _ => ht.idle_of_failed
    disarmed := fun _ hp _ _ _ hr hn => (Run.disarmed hr (ht.disarmed_of_failed hp) hn).2
    spares := fun _ hp _ hh _ _ hr hn =>
      (Run.spared hr (.of_disarmed (ht.disarmed_of_failed hp) hh) hn).not_isParked }

/-! ### A target that does not answer -/

/-- Thread 0 gives up stopping thread 1, which keeps the signal out. -/
def unheard : List Label :=
  .mask 1 true :: .ask 0 0 ⟨1, 5, false⟩ :: List.replicate 10 (.advance 0) ++
    .pass 5 :: List.replicate 3 (.advance 0)

theorem returns_unheard : ∃ past s, Run trio past s ∧ trio.Quiet ∧
    (∀ m ∈ past, m.before.isTimely m.label = true) ∧ (∀ m ∈ past, m.label.isOwn 0 = true) ∧
    s.inspectors.get 0 = .unlocking (.failed timedOut) ∧ (s.subjects.get 1).pending = true ∧
    Returns s 0 := by
  obtain ⟨past, s, h, hp⟩ := Machine.exists_run State.step trio
    (fun past s => past.all (fun m => m.before.isTimely m.label) ∧
      past.all (fun m => m.label.isOwn 0) ∧
      s.inspectors.get 0 = .unlocking (.failed timedOut) ∧ (s.subjects.get 1).pending = true)
    unheard (by decide +kernel)
  simp only [List.all_eq_true, decide_eq_true_eq] at hp
  obtain ⟨hk, hl, hi, hpend⟩ := hp
  exact ⟨past, s, h, quiet_trio, hk, hl, hi, hpend, Run.returns h quiet_trio hk hl⟩

/-! ## Deadlines that the clock can express -/

theorem isSome_deadline?_iff {now timeout : Nat} :
    (deadline? now timeout).isSome = true ↔ now + timeout < clockLimit * 1000000000 := by
  unfold deadline?
  rw [← Nat.div_lt_iff_lt_mul (by decide)]
  split <;> simp [*]

theorem toNanos_ofMillis (ms : UInt64) : (Span.ofMillis ms).toNanos = ms.toNat * 1000000 := by
  unfold Span.toNanos Span.ofMillis
  rw [UInt64.toNat_div]
  show ms.toNat / 1000 * 1000000000 + ms.toNat % 1000 * 1000000 = ms.toNat * 1000000
  omega

/-- No timeout that the environment can ask for is too long, while the clock is in the first half of its
range. -/
theorem isSome_deadline?_ofEnvironment (env : Environment) {now : Nat}
    (hn : now < clockLimit / 2 * 1000000000) :
    (deadline? now (Config.ofEnvironment env).inspectTimeout.toNanos).isSome = true := by
  obtain ⟨ms, hms⟩ : ∃ ms, (Config.ofEnvironment env).inspectTimeout = Span.ofMillis ms := by
    unfold Config.ofEnvironment
    cases Config.word? env "HOSTSYS_INSPECT_TIMEOUT_MS" with
    | none => exact ⟨5000, rfl⟩
    | some ms => exact ⟨ms, rfl⟩
  have hlt := ms.toNat_lt
  rw [isSome_deadline?_iff, hms, toNanos_ofMillis]
  unfold clockLimit at hn ⊢
  omega

/-- The longest timeout that there is, which is accepted. -/
def longest : Config :=
  { Config.standard with inspectTimeout := { secs := 0xFFFFFFFFFFFFFFFF, nanos := 0 } }

/-- Thread 0 is to stop thread 1, and computes its deadline. -/
def tooLong : List Label :=
  .ask 0 0 ⟨1, longest.inspectTimeout.toNanos, false⟩ :: List.replicate 9 (.advance 0)

/-- Thread 1 notices the signal. -/
def noticed : List Label := .deliver 1 :: List.replicate 7 (.handle 1)

/-- **A suspend that does not return.** A timeout that is accepted may take the deadline out of the range
of the clock. Then the inspection is broken off with the slot armed, and the target stops with nobody to
let it go. -/
theorem returns_not :
    longest.validate = .ok () ∧ (trio.subjects.get 0).live = true ∧
    (trio.subjects.get 1).live = true ∧ trio.Quiet ∧
    ∃ past s, Run trio past s ∧ (∀ m ∈ past, m.label.isOwn 0 = true) ∧
      s.inspectors.get 0 = .out (some .overflowed) ∧ s.slot.phase = .requested ∧
      s.lock.holder = none ∧
      ∃ past₂ s', Run s past₂ s' ∧ (∀ m ∈ past₂, m.before.aims? m.label = none) ∧ s'.IsParked 1 := by
  refine ⟨rfl, rfl, rfl, quiet_trio, ?_⟩
  obtain ⟨past, s, h, hp⟩ := Machine.exists_run State.step trio
    (fun past s => past.all (fun m => m.label.isOwn 0) ∧
      s.inspectors.get 0 = .out (some .overflowed) ∧ s.slot.phase = .requested ∧
      s.lock.holder = none ∧
      (Machine.replay State.step noticed [] s).any fun ⟨past₂, s'⟩ =>
        past₂.all (fun m => decide (m.before.aims? m.label = none)) ∧ (s'.handler 1).IsParked)
    tooLong (by decide +kernel)
  simp only [decide_eq_true_eq, Option.any_eq_true, List.all_eq_true] at hp
  obtain ⟨hl, hi, hf, hn, ⟨past₂, s'⟩, hr, ha, hpark⟩ := hp
  exact ⟨past, s, h, hl, hi, hf, hn, past₂, s', Machine.Run.start.replay hr, ha, hpark⟩

end VmHost.Inspect
