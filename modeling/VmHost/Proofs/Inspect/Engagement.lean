import Mathlib.Tactic.ByContra
import VmHost.Proofs.Inspect.Exchange

/-!
# From the aim of an inspector to the release of its target

An inspection is one of the holder of the mutex, from the aim of the slot on. Nobody else touches the
slot meanwhile, if no handler of another thread is on its way to an answer, or parked, when the slot is
aimed. So the registers are exchanged between the inspector and the handler of its target, as `Engages`
has it, whatever other threads and strangers do.

* `Kept`: the machine context of an interrupted thread is the one that the signal has saved.
* `Engaged.step`: what every step keeps until the inspection is over.
* `Run.engaged`: it holds since the slot was aimed.
-/
namespace VmHost.Inspect

open State

abbrev Moment := Machine.Moment State Label

/-- The registers that an OS thread has written last into the thread that it holds. -/
def lastSet? (o : OsThread) : List Moment → Option Registers
  | [] => none
  | m :: past => setAfter o (lastSet? o past) m.label

/-- The machine context with which the signal has interrupted a thread last. -/
def interrupted? (t : Identity) : List Moment → Option Context
  | [] => none
  | m :: past =>
    match m.label with
    | .deliver u => if u = t then some (m.before.subjects.get t).context else interrupted? t past
    | _ => interrupted? t past

/-- An inspector has aimed the slot for a request, and is about to carry it out. -/
structure Engaged (past : List Moment) (s : State) (o : OsThread) (q : Request)
    (set : Option Registers) : Prop where
  aimed : s.slot.target = some q.target
  others : ∀ t, t ≠ q.target → ¬ (s.handler t).IsAhead ∧ ¬ s.IsParked t
  request : ∀ q', (s.inspectors.get o).request? = some q' → q' = q
  place : (s.inspectors.get o).Engages s.slot set (interrupted? q.target past)
    (s.subjects.get q.target).context (s.handler q.target)

/-- While the handler of a thread runs, the machine context is the one that the signal has saved, until
other registers have been put there. -/
def Kept (past : List Moment) (s : State) : Prop :=
  ∀ t, s.handler t ≠ .out → s.handler t ≠ .releasing →
    interrupted? t past = some (s.subjects.get t).context

variable {s₀ s₁ s₂ s s' : State} {l : Label} {o x : OsThread} {t u : Identity} {p : Inspecting}
  {h : Handling} {f : Slot → Slot} {past past₂ : List Moment} {set : Option Registers} {q : Request}

/-! ## One step -/

theorem interrupted?_of_ne (hl : l ≠ .deliver t) :
    interrupted? t (⟨s, l, s'⟩ :: past) = interrupted? t past := by
  rw [interrupted?]
  split
  · rename_i u hu
    refine if_neg fun e => hl ?_
    rw [← e]
    exact hu
  · rfl

theorem interrupted?_of_handle :
    interrupted? t (⟨s, .handle u, s'⟩ :: past) = interrupted? t past :=
  rfl

theorem interrupted?_of_deliver :
    interrupted? t (⟨s, .deliver t, s'⟩ :: past) = some (s.subjects.get t).context :=
  if_pos rfl

theorem Reads.kept (hr : Reads s t h) (hn : h ≠ .out) :
    s.handler t ≠ .out ∧ s.handler t ≠ .releasing := by
  cases hr with
  | ignores | spares | abandons => exact absurd rfl hn
  | notices hp | recognizes hp | wakes hp | changes hp | keeps hp | reloads hp =>
    rw [hp]
    exact ⟨nofun, nofun⟩

theorem Stores.kept (hw : Stores s t f h) (hn : h ≠ .out) :
    s.handler t ≠ .out ∧ s.handler t ≠ .releasing := by
  cases hw with
  | releases => exact absurd rfl hn
  | stores hp | stored hp | clears hp | answers hp =>
    rw [hp]
    exact ⟨nofun, nofun⟩

/-- The machine context of a thread changes only while its handler is not running. -/
theorem Happens.context {g : Subject → Subject} (hh : Happens s l t g) {u : Identity}
    (hn : s.handler u ≠ .out) :
    ((s.onSubject t g).subjects.get u).context = (s.subjects.get u).context := by
  cases hh with
  | runs _ c hf =>
    have e : u ≠ t := fun e => hn (e ▸ handler_of_isFree hf)
    rw [get_onSubject, if_neg e]
  | masks | publishes | finishes | leaves =>
    exact s.onSubject_same t u (·.context) fun _ => rfl

namespace Kept

theorem start (hq : s.Quiet) : Kept [] s := fun t hn => absurd (hq.handler t) hn

/-- The machine contexts stay as they are, and handlers only start where the signal is delivered. -/
theorem same (hk : Kept past s) (hl : ∀ u, l ≠ .deliver u)
    (hc : ∀ u, (s'.subjects.get u).context = (s.subjects.get u).context)
    (hh : ∀ u, s'.handler u ≠ .out → s'.handler u ≠ .releasing →
      s.handler u ≠ .out ∧ s.handler u ≠ .releasing) : Kept (⟨s, l, s'⟩ :: past) s' := by
  intro u hu hu'
  obtain ⟨h₁, h₂⟩ := hh u hu hu'
  rw [interrupted?_of_ne (hl u), hc u]
  exact hk u h₁ h₂

theorem step (hk : Kept past s) (hs : s.step l = some s') : Kept (⟨s, l, s'⟩ :: past) s' := by
  cases step_transition hs with
  | moves hm =>
    exact hk.same (by cases hm <;> nofun) (fun _ => rfl) fun u h₁ h₂ => ⟨h₁, h₂⟩
  | writes | locks | unlocks | shows | passes =>
    exact hk.same (by nofun) (fun _ => rfl) fun u h₁ h₂ => ⟨h₁, h₂⟩
  | violates hb =>
    exact hk.same (by cases hb <;> nofun) (fun _ => rfl) fun u h₁ h₂ => ⟨h₁, h₂⟩
  | @signals o q =>
    exact hk.same (by nofun) (fun u => s.context_send ..) fun u h₁ h₂ => by
      rw [handler_moveTo, handler_send] at h₁ h₂
      exact ⟨h₁, h₂⟩
  | strays t =>
    exact hk.same (by nofun) (fun u => s.context_send ..) fun u h₁ h₂ => by
      rw [handler_send] at h₁ h₂
      exact ⟨h₁, h₂⟩
  | @delivers t _ _ hf =>
    intro u h₁ h₂
    rw [handler_onSubject] at h₁ h₂
    by_cases e : u = t
    · subst e
      rw [interrupted?_of_deliver, get_onSubject, if_pos rfl]
    · rw [if_neg e] at h₁ h₂
      rw [interrupted?_of_ne (by rintro ⟨⟩; exact e rfl), get_onSubject, if_neg e]
      exact hk u h₁ h₂
  | @reads t h hr =>
    refine hk.same (by nofun) (fun u => s.context_moveHandler ..)
      fun u h₁ h₂ => ?_
    rw [handler_moveHandler] at h₁ h₂
    split at h₁
    · rename_i e
      subst e
      rw [if_pos rfl] at h₂
      exact hr.kept h₁
    · rename_i e
      rw [if_neg e] at h₂
      exact ⟨h₁, h₂⟩
  | @stores t f h hw =>
    refine hk.same (by nofun) (fun u => (s.onSlot f).context_moveHandler ..)
      fun u h₁ h₂ => ?_
    rw [handler_moveHandler] at h₁ h₂
    split at h₁
    · rename_i e
      subst e
      exact hw.kept h₁
    · rename_i e
      rw [if_neg e] at h₂
      exact ⟨h₁, h₂⟩
  | @restores t k got hp =>
    intro u h₁ h₂
    rw [handler_onSubject] at h₁ h₂
    by_cases e : u = t
    · rw [if_pos e] at h₂
      exact absurd rfl h₂
    · rw [if_neg e] at h₁ h₂
      rw [interrupted?_of_handle, get_onSubject, if_neg e]
      exact hk u h₁ h₂
  | @happens l t g hh =>
    intro u h₁ h₂
    rw [hh.handler] at h₁ h₂
    rw [interrupted?_of_ne (by rintro rfl; cases hh), hh.context h₁]
    exact hk u h₁ h₂

end Kept

namespace Engaged

/-- The inspector goes on. -/
theorem goesOn (he : Engaged past s o q set) (hl : ∀ u, l ≠ .deliver u)
    (ha : s'.slot.target = s.slot.target) (hh : ∀ u, s'.handler u = s.handler u)
    (hr : ∀ q', (s'.inspectors.get o).request? = some q' → (s.inspectors.get o).request? = some q')
    (hp : (s'.inspectors.get o).Engages s'.slot (setAfter o set l) (interrupted? q.target past)
      (s'.subjects.get q.target).context (s.handler q.target)) :
    Engaged (⟨s, l, s'⟩ :: past) s' o q (setAfter o set l) where
  aimed := ha.trans he.aimed
  others u hu := by
    rw [IsParked, hh u]
    exact he.others u hu
  request q' hq := he.request q' (hr q' hq)
  place := by
    rw [interrupted?_of_ne (hl _), hh]
    exact hp

/-- The handler of a thread goes on, or something else happens to the thread. -/
theorem onSubject (he : Engaged past s o q set) (hi : s'.inspectors = s.inspectors)
    (ha : s'.slot.target = s.slot.target) (hl : setAfter o set l = set)
    (hh : ∀ u, u ≠ t → s'.handler u = s.handler u)
    (ho : t ≠ q.target → ¬ (s'.handler t).IsAhead ∧ ¬ s'.IsParked t)
    (hp : (s.inspectors.get o).Engages s'.slot set (interrupted? q.target (⟨s, l, s'⟩ :: past))
      (s'.subjects.get q.target).context (s'.handler q.target)) :
    Engaged (⟨s, l, s'⟩ :: past) s' o q (setAfter o set l) where
  aimed := ha.trans he.aimed
  others u hu := by
    by_cases e : u = t
    · exact e ▸ ho (e ▸ hu)
    · rw [IsParked, hh u e]
      exact he.others u hu
  request := by
    rw [hi]
    exact he.request
  place := by
    rw [hi, hl]
    exact hp

/-- Nothing changes that matters. -/
theorem same (he : Engaged past s o q set) (hl : ∀ u, l ≠ .deliver u)
    (hi : s'.inspectors.get o = s.inspectors.get o) (ha : s'.slot = s.slot)
    (hs : setAfter o set l = set) (hh : ∀ u, s'.handler u = s.handler u)
    (hc : ∀ u, (s'.subjects.get u).context = (s.subjects.get u).context) :
    Engaged (⟨s, l, s'⟩ :: past) s' o q (setAfter o set l) := by
  refine he.goesOn hl (by rw [ha]) hh (fun q' hq => hi ▸ hq) ?_
  rw [hi, ha, hs, hc]
  exact he.place

theorem reads (he : Engaged past s o q set) (hk : Kept past s) (hr : Reads s t h) :
    Engaged (⟨s, .handle t, s.moveHandler t h⟩ :: past) (s.moveHandler t h) o q set := by
  refine he.onSubject (t := t) rfl rfl rfl (fun u hu => ?_) (fun ht => ?_) ?_
  · rw [handler_moveHandler, if_neg hu]
  · rw [IsParked, handler_moveHandler, if_pos rfl, ← hr.isParked]
    refine ⟨fun ha => ?_, (he.others t ht).2⟩
    cases hr with
    | recognizes _ hf => exact ht (Option.some.inj (hf.symm.trans he.aimed))
    | _ => exact ha
  · rw [interrupted?_of_handle, context_moveHandler, handler_moveHandler]
    have hp := he.place
    split
    · rename_i e
      rw [e] at hp ⊢
      exact hp.reads (hk t) hr
    · exact hp

theorem stores (he : Engaged past s o q set) (hw : Stores s t f h) :
    Engaged (⟨s, .handle t, (s.onSlot f).moveHandler t h⟩ :: past) ((s.onSlot f).moveHandler t h) o q
      set := by
  -- Only the target is on its way to an answer or back.
  have ht : t = q.target := by
    by_contra hn
    obtain ⟨ha, hp⟩ := he.others t hn
    unfold IsParked at hp
    cases hw with
    | stores hh | stored hh | clears hh | answers hh | releases hh =>
      rw [hh] at ha hp
      first | exact ha trivial | exact hp trivial
  refine he.onSubject (t := t) rfl ?_ rfl (fun u hu => ?_) (fun hn => absurd ht hn) ?_
  · cases hw <;> rfl
  · rw [handler_moveHandler, if_neg hu]
    rfl
  · rw [interrupted?_of_handle, context_moveHandler, handler_moveHandler, if_pos ht.symm]
    have hp := he.place
    rw [← ht] at hp ⊢
    exact hp.stores hw

theorem restores {k : Slice} {got : Registers} (he : Engaged past s o q set) (hk : Kept past s)
    (hp : s.handler t = .reloading k got) (hn : k.next? = none) {s' : State}
    (hs : s' = s.onSubject t fun y => { y with
      context := y.context.withRegisters (k.put got (k.of s.slot.registers))
      handler := .releasing }) :
    Engaged (⟨s, .handle t, s'⟩ :: past) s' o q set := by
  subst hs
  have ht : t = q.target := by
    by_contra ht
    have hp' := (he.others t ht).2
    rw [IsParked, hp] at hp'
    exact hp' trivial
  refine he.onSubject (t := t) rfl rfl rfl (fun u hu => ?_) (fun hn => absurd ht hn) ?_
  · rw [handler_onSubject, if_neg hu]
  · rw [interrupted?_of_handle, handler_onSubject, if_pos ht.symm, get_onSubject,
      if_pos ht.symm]
    have hpl := he.place
    have hk := hk t (by simp [hp]) (by simp [hp])
    rw [← ht] at hpl ⊢
    rw [hp, hk] at hpl
    rw [hk]
    exact hpl.restores hn

/-- A thread whose handler is not running is interrupted, or goes on. -/
theorem free (he : Engaged past s o q set) (hf : s.handler t = .out)
    (hi : s'.inspectors = s.inspectors) (ha : s'.slot = s.slot) (hl : setAfter o set l = set)
    (hh : ∀ u, u ≠ t → s'.handler u = s.handler u) (ht : s'.handler t = .out ∨ s'.handler t = .entered)
    (hc : ∀ u, u ≠ t → (s'.subjects.get u).context = (s.subjects.get u).context)
    (hd : ∀ u, u ≠ t → l ≠ .deliver u) :
    Engaged (⟨s, l, s'⟩ :: past) s' o q (setAfter o set l) := by
  refine he.onSubject (t := t) hi (by rw [ha]) hl hh (fun _ => ?_) ?_
  · unfold IsParked
    rcases ht with ht | ht <;> rw [ht] <;> exact ⟨id, id⟩
  · have hp := he.place
    rw [ha]
    by_cases e : q.target = t
    · rw [e] at hp ⊢
      rw [hf] at hp
      exact hp.free ht
    · rw [hh _ e, hc _ e, interrupted?_of_ne (hd _ e)]
      exact hp

theorem happens {g : Subject → Subject} (he : Engaged past s o q set) (hh : Happens s l t g) :
    Engaged (⟨s, l, s.onSubject t g⟩ :: past) (s.onSubject t g) o q (setAfter o set l) := by
  cases hh with
  | runs _ c hf =>
    have hf := handler_of_isFree hf
    refine he.free hf rfl rfl rfl (fun u hu => ?_) (.inl ?_) (fun u hu => ?_) (by nofun)
    · rw [handler_onSubject, if_neg hu]
    · rw [handler_onSubject, if_pos rfl]
      exact hf
    · rw [get_onSubject, if_neg hu]
  | masks | publishes | finishes | leaves =>
    exact he.same (by nofun) rfl rfl rfl (fun u => s.onSubject_same t u (·.handler) fun _ => rfl)
      fun u => s.onSubject_same t u (·.context) fun _ => rfl

/-- What every step keeps until the inspection is over. -/
theorem step (he : Engaged past s o q set) (hp : (s.inspectors.get o).IsEngaged) (hc : Exclusive s)
    (hk : Kept past s) (hs : s.step l = some s') :
    Engaged (⟨s, l, s'⟩ :: past) s' o q (setAfter o set l) := by
  cases step_transition hs with
  | @moves x l p hm =>
    by_cases e : x = o
    · subst e
      refine he.goesOn (by cases hm <;> nofun) rfl (fun _ => rfl) (fun q' hq => ?_) ?_
      · rw [get_moveTo, if_pos rfl] at hq
        exact hm.request hp hq
      · rw [get_moveTo, if_pos rfl]
        exact hm.engages hp he.place
    · refine he.same (by cases hm <;> nofun) ?_ rfl (hm.setAfter e) (fun _ => rfl) fun _ => rfl
      rw [get_moveTo, if_neg (Ne.symm e)]
  | @writes x f p hw =>
    obtain rfl : x = o := hc.alone hp.isInside hw.isInside.1
    refine he.goesOn (by nofun) (hw.target hp) (fun _ => rfl) (fun q' hq => ?_) ?_
    · rw [get_moveTo, if_pos rfl] at hq
      exact hw.request hp hq
    · rw [get_moveTo, if_pos rfl]
      exact hw.engages hp he.place
  | @locks x q hx =>
    have e : o ≠ x := by
      rintro rfl
      rw [hx] at hp
      exact hp
    exact he.same (by nofun) (by rw [get_moveTo, if_neg e]) rfl rfl (fun _ => rfl) fun _ => rfl
  | @unlocks x r hx =>
    have e : o ≠ x := by
      rintro rfl
      rw [hx] at hp
      exact hp
    exact he.same (by nofun) (by rw [get_moveTo, if_neg e]) rfl rfl (fun _ => rfl) fun _ => rfl
  | @signals x q' hx =>
    obtain rfl : x = o := hc.alone hp.isInside (by rw [hx]; trivial)
    refine he.goesOn (by nofun) rfl (fun u => handler_send ..) (fun q' hq => ?_) ?_
    · rw [get_moveTo, if_pos rfl] at hq
      rw [hx]
      exact hq
    · have hpl := he.place
      rw [hx] at hpl
      rw [get_moveTo, if_pos rfl, show ((s.send q'.target).moveTo x (.timing q')).subjects =
        (s.send q'.target).subjects from rfl, context_send]
      exact hpl
  | @shows x q' k got hx =>
    obtain rfl : x = o := hc.alone hp.isInside (by rw [hx]; trivial)
    refine he.goesOn (by nofun) rfl (fun _ => rfl) (fun q' hq => ?_) ?_
    · rw [get_moveTo, if_pos rfl] at hq
      cases hq
    · have hpl := he.place
      rw [hx] at hpl
      rw [get_moveTo, if_pos rfl]
      exact ⟨hpl.2.2.1, ⟨by rw [show setAfter x set (.advance x) = none from hpl.1]; exact hpl.2.1, by
        rw [show setAfter x set (.advance x) = none from hpl.1]; nofun⟩⟩
  | @delivers t _ _ hf =>
    have hf := handler_of_isFree hf
    refine he.free hf rfl rfl rfl (fun u hu => ?_) (.inr ?_) (fun u hu => ?_)
      (by rintro u hu ⟨⟩; exact hu rfl)
    · rw [handler_onSubject, if_neg hu]
    · rw [handler_onSubject, if_pos rfl]
    · rw [get_onSubject, if_neg hu]
  | reads hr => exact he.reads hk hr
  | stores hw => exact he.stores hw
  | restores hh hn => exact he.restores hk hh hn rfl
  | strays =>
    exact he.same (by nofun) rfl rfl rfl (fun u => handler_send ..) fun u => context_send ..
  | happens hh => exact he.happens hh
  | passes => exact he.same (by nofun) rfl rfl rfl (fun _ => rfl) fun _ => rfl
  | violates hb =>
    exact he.same (by cases hb <;> nofun) rfl rfl (by cases hb <;> rfl) (fun _ => rfl) fun _ => rfl

end Engaged

/-! ## Whole runs -/

/-- The inspection has come to its end, but for the release of the mutex. -/
def Inspecting.IsOver : Inspecting → Prop
  | .disarming _ | .confused | .unlocking _ | .out _ => True
  | _ => False

/-- From the aim of the slot on, an inspection is going on or over, unless its OS thread begins another
one. -/
theorem isEngaged_or_isOver (hp : (s.inspectors.get o).IsEngaged ∨ (s.inspectors.get o).IsOver)
    (hs : s.step l = some s') (hl : ∀ c q, l ≠ .ask o c q) :
    (s'.inspectors.get o).IsEngaged ∨ (s'.inspectors.get o).IsOver := by
  rcases step_turn hs o with ⟨f, ht, -⟩ | ⟨he, -⟩
  · generalize s'.inspectors.get o = p at ht ⊢
    cases ht with
    | moves hm =>
      cases hm with
      | asks => exact absurd rfl (hl _ _)
      | finds hi | finished hi | resolves hi | unresolved hi =>
        rw [hi] at hp
        rcases hp with hp | hp <;> exact hp.elim
      | refused | overflows | wonders | drains => exact .inr trivial
      | _ => exact .inl trivial
    | writes hw =>
      cases hw with
      | disarms | withdraws | resets => exact .inr trivial
      | _ => exact .inl trivial
    | locks hi =>
      rw [hi] at hp
      rcases hp with hp | hp <;> exact hp.elim
    | unlocks => exact .inr trivial
    | signals | shows => exact .inl trivial
  · rw [he]
    exact hp

/-- There is no other way into an inspection than the aim of the slot. -/
theorem isEngaged_before (hs : s.step l = some s') (hp : (s'.inspectors.get o).IsEngaged) :
    (s.inspectors.get o).IsEngaged ∨ ∃ q, s.inspectors.get o = .aiming q := by
  rcases step_turn hs o with ⟨f, ht, -⟩ | ⟨he, -⟩
  · generalize s'.inspectors.get o = p at ht hp
    cases ht with
    | moves hm =>
      cases hm with
      | asks | finds | finished | resolves | unresolved | refused | overflows | wonders | drains =>
        exact hp.elim
      | times hi | meets hi | waits hi | persists hi | despairs hi | answered hi | captures hi
      | holds hi | rewrites hi | resumes hi =>
        rw [hi]
        exact .inl trivial
    | writes hw =>
      cases hw with
      | aims hi => exact .inr ⟨_, hi⟩
      | disarms | withdraws | resets => exact hp.elim
      | clears hi | arms hi | overwrites hi | overwritten hi | marks hi | resumes hi =>
        rw [hi]
        exact .inl trivial
    | locks | unlocks => exact hp.elim
    | signals hi | shows hi =>
      rw [hi]
      exact .inl trivial
  · rw [he] at hp
    exact .inl hp

theorem Run.kept (h : Run s₀ past s) (h₀ : s₀.Quiet) : Kept past s := by
  induction h with
  | start => exact .start h₀
  | step l _ hs ih => exact ih.step hs

/-- No handler is on its way to an answer, or parked. -/
def State.IsClear (s : State) : Prop := ∀ t, ¬ (s.handler t).IsAhead ∧ ¬ s.IsParked t

theorem step_aiming (hp : s.inspectors.get o = .aiming q) (hs : s.step (.advance o) = some s') :
    s' = (s.onSlot ({ · with target := some q.target })).moveTo o (.clearing q) := by
  unfold State.step at hs
  split at hs
  · cases hs
  · dsimp only [inspect] at hs
    split at hs
    · rw [State.advance, hp] at hs
      exact (Option.some.inj hs).symm
    · cases hs

/-- An inspection begins with the aim of the slot. -/
theorem Engaged.start (hp : s.inspectors.get o = .aiming q) (hc : s.IsClear)
    (hs : s.step (.advance o) = some s') :
    (s'.inspectors.get o).IsEngaged ∧ Engaged (⟨s, .advance o, s'⟩ :: past) s' o q none := by
  have he := step_aiming hp hs
  have hi : s'.inspectors.get o = .clearing q := by
    rw [he, get_moveTo, if_pos rfl]
  have hh (u : Identity) : s'.handler u = s.handler u := by
    rw [he]
    rfl
  refine ⟨by rw [hi]; trivial, ?_, fun t _ => ?_, fun q' hq => ?_, ?_⟩
  · rw [he]
    rfl
  · rw [IsParked, hh]
    exact hc t
  · rw [hi] at hq
    exact (Option.some.inj hq).symm
  · rw [hi, hh]
    refine ⟨rfl, .free (hc _).2 ?_⟩
    have ha := (hc q.target).1
    cases hg : s.handler q.target <;> rw [hg] at ha <;> first | trivial | exact absurd trivial ha

/-- From the aim of the slot on, everything is as it should be until the inspection is over. -/
theorem Run.engaged (h : Run s₀ past s₁) (h₀ : s₀.Quiet) (hp : s₁.inspectors.get o = .aiming q)
    (hc : s₁.IsClear) (hs : s₁.step (.advance o) = some s₂) (h' : Run s₂ past₂ s)
    (hn : ∀ m ∈ past₂, ∀ c q', m.label ≠ .ask o c q') :
    ((s.inspectors.get o).IsEngaged ∨ (s.inspectors.get o).IsOver) ∧
      ((s.inspectors.get o).IsEngaged →
        Engaged (past₂ ++ ⟨s₁, .advance o, s₂⟩ :: past) s o q (lastSet? o past₂)) := by
  induction h' with
  | start =>
    have he : _ ∧ Engaged (⟨s₁, .advance o, s₂⟩ :: past) s₂ o q none := Engaged.start hp hc hs
    exact ⟨.inl he.1, fun _ => he.2⟩
  | @step past₂ s s' l h' hs' ih =>
    rw [List.forall_mem_cons] at hn
    obtain ⟨hi, he⟩ := ih hn.2
    have hr : Run s₀ (past₂ ++ ⟨s₁, .advance o, s₂⟩ :: past) s := (h.step _ hs).append h'
    refine ⟨isEngaged_or_isOver hi hs' hn.1, fun hi' => ?_⟩
    rcases isEngaged_before hs' hi' with hp' | ⟨q', hp'⟩
    · exact (he hp').step hp' (hr.exclusive h₀) (hr.kept h₀) hs'
    · rw [hp'] at hi
      rcases hi with hi | hi <;> exact hi.elim

end VmHost.Inspect
