import VmHost.Proofs.Inspect.Target

/-!
# How registers are exchanged through the slot

Once an inspector has aimed the slot at its target, the registers of the target go through the slot and
back. The handler copies them, the inspector reads them and may write others, and the handler puts these
into the machine context. `Engages` says for every place of the inspector what the slot holds by then and
where the handler of the target is.

What is left of earlier inspections does no harm. The phase may be anything when the slot is aimed, as
the deadline of an earlier request may have been out of range. So the target may answer before it is
asked (`Precedes.early`), and be on its way out when the slot is armed (`Awaits.spoiled`). The inspection
fails then.

* `Engages.reads`, `Engages.stores`, `Engages.restores`: what the handler of the target does.
* `Moves.engages`, `Writes.engages`: what the inspector does.
-/
namespace VmHost.Inspect

open State

/-- The machine context, with the three registers replaced if there are others for them. -/
def rewritten (c : Context) : Option Registers → Context
  | none => c
  | some r => c.withRegisters r

/-- The registers that an OS thread has written last into the thread that it holds, once it has done what
a label says. -/
def setAfter (o : OsThread) (set : Option Registers) : Label → Option Registers
  | .overwrite x r => if x = o then some r else set
  | _ => set

/-- The registers that were written last, if any, are in the slot and marked. -/
structure Slot.Carries (y : Slot) (set : Option Registers) : Prop where
  mark : y.overwritten = set.isSome
  words : ∀ r, set = some r → y.registers = r

namespace Handling

/-- The words that the handler has copied are in the slot, as long as it has not answered. -/
def Copies (words own : Registers) : Handling → Prop
  | .storing k => k.Agrees words own
  | .clearing | .answering => words = own
  | _ => True

/-- Where the handler of a target is before the slot is armed. -/
inductive Precedes (y : Slot) (own : Registers) : Handling → Prop
  | free {h} : ¬ h.IsParked → h.Copies y.registers own → Precedes y own h
  | early : y.phase = .paused → Precedes y own .parked

/-- Where it is while the inspector waits for its answer. -/
inductive Awaits (y : Slot) (own : Registers) : Handling → Prop
  | asked {h} : y.phase = .requested → ¬ h.IsParked → h.Copies y.registers own → Awaits y own h
  | answered : y.phase = .paused → y.registers = own → Awaits y own .parked
  /-- It has answered early, and nobody is there to answer this request. -/
  | spoiled {h} : y.phase = .requested → h = .parked ∨ h = .checking ∨ h = .releasing →
      Awaits y own h
  | missed {h} : y.phase = .idle → ¬ h.IsParked → Awaits y own h

/-- It waits until it may go on. -/
structure IsHeld (y : Slot) (h : Handling) : Prop where
  phase : y.phase = .paused
  parked : h = .parked

/-- Where it is when it may go on. -/
inductive Drains (y : Slot) (set : Option Registers) (first : Option Context) (now : Context) :
    Handling → Prop
  | waits {h} : y.phase = .resume → y.Carries set → h = .parked ∨ h = .checking →
      Drains y set first now h
  | reloads {k got r} : y.phase = .resume → set = some r → y.registers = r → k.Agrees got r →
      Drains y set first now (.reloading k got)
  | releases {c} : y.phase = .resume → first = some c → now = rewritten c set →
      Drains y set first now .releasing
  | gone {h} : y.phase = .idle → ¬ h.IsParked → Drains y set first now h

end Handling

namespace Inspecting

/-- The inspector has aimed the slot, and the inspection is not over. -/
def IsEngaged : Inspecting → Prop
  | .clearing _ | .arming _ | .signalling _ | .timing _ | .polling .. | .weighing ..
  | .withdrawing .. | .capturing .. | .holding .. | .overwriting .. | .marking .. | .resuming
  | .draining => True
  | _ => False

theorem IsEngaged.isInside {p : Inspecting} (h : p.IsEngaged) : p.IsInside := by
  cases p with
  | out | locking => exact h
  | _ => trivial

/-- What the inspector is asked to do, as long as it remembers. -/
def request? : Inspecting → Option Request
  | .clearing q | .arming q | .signalling q | .timing q | .polling q _ | .weighing q _
  | .withdrawing q _ _ | .capturing q _ _ | .holding q _ | .overwriting q _ _ | .marking q _ => some q
  | _ => none

/-- What the slot holds, and where the handler of the target is, for every place of the inspector. -/
def Engages (y : Slot) (set : Option Registers) (first : Option Context) (now : Context)
    (h : Handling) : Inspecting → Prop
  | .clearing _ => set = none ∧ h.Precedes y now.registers
  | .arming _ => set = none ∧ y.overwritten = false ∧ h.Precedes y now.registers
  | .signalling _ | .timing _ | .polling .. | .weighing .. | .withdrawing .. =>
    set = none ∧ y.overwritten = false ∧ h.Awaits y now.registers
  | .capturing _ k got =>
    set = none ∧ y.overwritten = false ∧ h.IsHeld y ∧ y.registers = now.registers ∧
      k.Agrees got now.registers
  | .holding _ r => h.IsHeld y ∧ y.Carries set ∧ r = set.getD now.registers
  | .overwriting _ k r => h.IsHeld y ∧ set = some r ∧ k.Agrees y.registers r
  | .marking _ r => h.IsHeld y ∧ set = some r ∧ y.registers = r
  | .resuming => h.IsHeld y ∧ y.Carries set
  | .draining => h.Drains y set first now
  | _ => True

end Inspecting

variable {s : State} {l : Label} {o x : OsThread} {t : Identity} {p : Inspecting} {h : Handling}
  {f : Slot → Slot} {set : Option Registers} {first first' : Option Context} {now now' : Context}
  {y : Slot} {own : Registers} {q : Request}

/-! ## The steps of the target's handler -/

namespace Handling

theorem IsHeld.not_reads (hs : (s.handler t).IsHeld s.slot) : ¬ Reads s t h := by
  intro hr
  have hp := hs.parked
  have hf := hs.phase
  cases hr <;> simp_all

theorem IsHeld.not_stores (hs : (s.handler t).IsHeld s.slot) : ¬ Stores s t f h := by
  intro hw
  have hp := hs.parked
  cases hw <;> simp_all

/-- By reading the slot alone, a handler does not get beyond the first word. -/
theorem copies_of_reads (hr : Reads s t h) (words own : Registers) : h.Copies words own := by
  cases hr <;> trivial

theorem Copies.stores (hc : (s.handler t).Copies s.slot.registers (s.saved t))
    (hw : Stores s t f h) : h.Copies (f s.slot).registers (s.saved t) := by
  cases hw with
  | stores hp hk =>
    rw [hp] at hc
    exact hc.next hk
  | stored hp hk =>
    rw [hp] at hc
    exact hc.all hk
  | clears hp =>
    rw [hp] at hc
    exact hc
  | answers | releases => trivial

theorem Precedes.reads (hp : (s.handler t).Precedes s.slot own) (hr : Reads s t h) :
    h.Precedes s.slot own := by
  generalize he : s.handler t = g at hp
  cases hp with
  | free hn hc =>
    subst he
    exact .free (fun hp => hn (hr.isParked.mpr hp)) (copies_of_reads hr ..)
  | early hf => exact absurd hr (IsHeld.not_reads ⟨hf, he⟩)

theorem Precedes.stores (hp : (s.handler t).Precedes s.slot (s.saved t)) (hw : Stores s t f h) :
    h.Precedes (f s.slot) (s.saved t) := by
  generalize he : s.handler t = g at hp
  cases hp with
  | free hn hc =>
    subst he
    have hc := hc.stores hw
    cases hw with
    | stores | stored | clears => exact .free id hc
    | answers => exact .early rfl
    | releases hp =>
      rw [hp] at hn
      exact absurd trivial hn
  | early hf => exact absurd hw (IsHeld.not_stores ⟨hf, he⟩)

theorem Awaits.reads (ha : (s.handler t).Awaits s.slot own) (hm : s.slot.overwritten = false)
    (hr : Reads s t h) : h.Awaits s.slot own := by
  generalize he : s.handler t = g at ha
  cases ha with
  | asked hf hn hc =>
    subst he
    exact .asked hf (fun hp => hn (hr.isParked.mpr hp)) (copies_of_reads hr ..)
  | answered hf => exact absurd hr (IsHeld.not_reads ⟨hf, he⟩)
  | spoiled hf hp =>
    subst he
    cases hr with
    | wakes => exact .spoiled hf (.inr (.inl rfl))
    | keeps => exact .spoiled hf (.inr (.inr rfl))
    | changes _ hm' =>
      rw [hm] at hm'
      cases hm'
    | notices hh | ignores hh | recognizes hh | spares hh | abandons hh | reloads hh =>
      rw [hh] at hp
      rcases hp with hp | hp | hp <;> cases hp
  | missed hf hn =>
    subst he
    exact .missed hf fun hp => hn (hr.isParked.mpr hp)

theorem Awaits.stores (ha : (s.handler t).Awaits s.slot (s.saved t)) (hw : Stores s t f h) :
    h.Awaits (f s.slot) (s.saved t) := by
  generalize he : s.handler t = g at ha
  cases ha with
  | asked hf hn hc =>
    subst he
    have hc' := hc.stores hw
    cases hw with
    | stores | stored | clears => exact .asked hf id hc'
    | answers hp =>
      rw [hp] at hc
      exact .answered rfl hc
    | releases hp =>
      rw [hp] at hn
      exact absurd trivial hn
  | answered hf => exact absurd hw (IsHeld.not_stores ⟨hf, he⟩)
  | spoiled hf hp =>
    subst he
    cases hw with
    | releases => exact .missed rfl id
    | stores hh | stored hh | clears hh | answers hh =>
      rw [hh] at hp
      rcases hp with hp | hp | hp <;> cases hp
  | missed hf hn =>
    subst he
    cases hw with
    | stores | stored | clears => exact .missed hf id
    | answers _ hf' => cases hf.symm.trans hf'
    | releases hp =>
      rw [hp] at hn
      exact absurd trivial hn

theorem Drains.reads (hd : (s.handler t).Drains s.slot set first now)
    (hk : s.handler t ≠ .out → s.handler t ≠ .releasing → first = some now) (hr : Reads s t h) :
    h.Drains s.slot set first now := by
  generalize he : s.handler t = g at hd
  cases hd with
  | waits hf hc hp =>
    subst he
    cases hr with
    | wakes => exact .waits hf hc (.inr rfl)
    | changes hh hm =>
      obtain ⟨r, hr⟩ := Option.isSome_iff_exists.mp (hc.mark.symm.trans hm)
      exact .reloads hf hr (hc.words r hr) trivial
    | keeps hh hm =>
      have hn : set = none := Option.not_isSome_iff_eq_none.mp (by rw [← hc.mark, hm]; nofun)
      exact .releases hf (hk (by rw [hh]; nofun) (by rw [hh]; nofun)) (by rw [hn]; rfl)
    | notices hh | ignores hh | recognizes hh | spares hh | abandons hh | reloads hh =>
      rw [hh] at hp
      rcases hp with hp | hp <;> cases hp
  | reloads hf hs hw ha =>
    cases hr with
    | reloads hh hn =>
      cases he.symm.trans hh
      exact .reloads hf hs hw (hw ▸ ha.next hn)
    | notices hh | ignores hh | recognizes hh | spares hh | abandons hh | wakes hh | changes hh
    | keeps hh => cases he.symm.trans hh
  | releases => cases hr <;> simp_all
  | gone hf hn =>
    subst he
    exact .gone hf fun hp => hn (hr.isParked.mpr hp)

theorem Drains.stores (hd : (s.handler t).Drains s.slot set first now) (hw : Stores s t f h) :
    h.Drains (f s.slot) set first now := by
  generalize he : s.handler t = g at hd
  cases hd with
  | waits hf hc hp =>
    subst he
    cases hw with
    | stores hh | stored hh | clears hh | answers hh | releases hh =>
      rw [hh] at hp
      rcases hp with hp | hp <;> cases hp
  | reloads =>
    cases hw with
    | stores hh | stored hh | clears hh | answers hh | releases hh => cases he.symm.trans hh
  | releases =>
    cases hw with
    | releases => exact .gone rfl id
    | stores hh | stored hh | clears hh | answers hh => cases he.symm.trans hh
  | gone hf hn =>
    subst he
    cases hw with
    | stores | stored | clears => exact .gone hf id
    | answers _ hf' => cases hf.symm.trans hf'
    | releases hp =>
      rw [hp] at hn
      exact absurd trivial hn

/-- The last word is read, and the registers are put into the machine context. -/
theorem Drains.restores {k : Slice} {got : Registers}
    (hd : (Handling.reloading k got).Drains y set (some now) now) (hk : k.next? = none) :
    Handling.releasing.Drains y set (some now)
      (now.withRegisters (k.put got (k.of y.registers))) := by
  cases hd with
  | waits _ _ hp => rcases hp with hp | hp <;> cases hp
  | reloads hf hs hw ha =>
    refine .releases hf rfl ?_
    rw [hw, ha.all hk, hs]
    rfl
  | gone _ hn => exact absurd trivial hn

end Handling

/-- A handler clears the mark, if it does anything to it. -/
theorem Stores.overwritten (hw : Stores s t f h) (hm : s.slot.overwritten = false) :
    (f s.slot).overwritten = false := by
  cases hw <;> first | exact hm | rfl

/-! ## What they mean to the inspector -/

namespace Inspecting

theorem Engages.reads
    (he : p.Engages s.slot set first (s.subjects.get t).context (s.handler t))
    (hk : s.handler t ≠ .out → s.handler t ≠ .releasing → first = some (s.subjects.get t).context)
    (hr : Reads s t h) : p.Engages s.slot set first (s.subjects.get t).context h := by
  cases p with
  | clearing q => exact ⟨he.1, he.2.reads hr⟩
  | arming q => exact ⟨he.1, he.2.1, he.2.2.reads hr⟩
  | signalling | timing | polling | weighing | withdrawing =>
    exact ⟨he.1, he.2.1, he.2.2.reads he.2.1 hr⟩
  | capturing => exact absurd hr he.2.2.1.not_reads
  | holding | overwriting | marking | resuming => exact absurd hr he.1.not_reads
  | draining => exact Handling.Drains.reads he hk hr
  | _ => trivial

theorem Engages.stores
    (he : p.Engages s.slot set first (s.subjects.get t).context (s.handler t))
    (hw : Stores s t f h) : p.Engages (f s.slot) set first (s.subjects.get t).context h := by
  cases p with
  | clearing q => exact ⟨he.1, he.2.stores hw⟩
  | arming q => exact ⟨he.1, hw.overwritten he.2.1, he.2.2.stores hw⟩
  | signalling | timing | polling | weighing | withdrawing =>
    exact ⟨he.1, hw.overwritten he.2.1, he.2.2.stores hw⟩
  | capturing => exact absurd hw he.2.2.1.not_stores
  | holding | overwriting | marking | resuming => exact absurd hw he.1.not_stores
  | draining => exact Handling.Drains.stores he hw
  | _ => trivial

/-- While its handler is not running, the registers of the target are its own affair. -/
theorem Engages.free (he : p.Engages y set first now .out) (hh : h = .out ∨ h = .entered) :
    p.Engages y set first' now' h := by
  have hn : ¬ h.IsParked := by rcases hh with rfl | rfl <;> exact id
  have hc (words own : Registers) : h.Copies words own := by rcases hh with rfl | rfl <;> trivial
  have hprec (own own' : Registers) (hp : Handling.out.Precedes y own) : h.Precedes y own' := by
    cases hp with
    | free => exact .free hn (hc ..)
  have hawait (own own' : Registers) (ha : Handling.out.Awaits y own) : h.Awaits y own' := by
    cases ha with
    | asked hf => exact .asked hf hn (hc ..)
    | spoiled _ hp => rcases hp with hp | hp | hp <;> cases hp
    | missed hf => exact .missed hf hn
  cases p with
  | clearing q => exact ⟨he.1, hprec _ _ he.2⟩
  | arming q => exact ⟨he.1, he.2.1, hprec _ _ he.2.2⟩
  | signalling | timing | polling | weighing | withdrawing => exact ⟨he.1, he.2.1, hawait _ _ he.2.2⟩
  | capturing => cases he.2.2.1.parked
  | holding | overwriting | marking | resuming => cases he.1.parked
  | draining =>
    cases he with
    | waits _ _ hp => rcases hp with hp | hp <;> cases hp
    | gone hf => exact .gone hf hn
  | _ => trivial

theorem Engages.restores {k : Slice} {got : Registers}
    (he : p.Engages y set (some now) now (.reloading k got)) (hk : k.next? = none) :
    p.Engages y set (some now) (now.withRegisters (k.put got (k.of y.registers))) .releasing := by
  have hprec (own own' : Registers) (hp : (Handling.reloading k got).Precedes y own) :
      Handling.releasing.Precedes y own' := by
    cases hp with
    | free hn => exact absurd trivial hn
  have hawait (own own' : Registers) (ha : (Handling.reloading k got).Awaits y own) :
      Handling.releasing.Awaits y own' := by
    cases ha with
    | asked _ hn | missed _ hn => exact absurd trivial hn
    | spoiled _ hp => rcases hp with hp | hp | hp <;> cases hp
  cases p with
  | clearing q => exact ⟨he.1, hprec _ _ he.2⟩
  | arming q => exact ⟨he.1, he.2.1, hprec _ _ he.2.2⟩
  | signalling | timing | polling | weighing | withdrawing => exact ⟨he.1, he.2.1, hawait _ _ he.2.2⟩
  | capturing => cases he.2.2.1.parked
  | holding | overwriting | marking | resuming => cases he.1.parked
  | draining => exact Handling.Drains.restores he hk
  | _ => trivial

end Inspecting

/-! ## The steps of the inspector -/

theorem Moves.engages (hm : Moves s o l p) (hp : (s.inspectors.get o).IsEngaged)
    (he : (s.inspectors.get o).Engages s.slot set first now h) :
    p.Engages s.slot (setAfter o set l) first now h := by
  cases hm with
  | asks hi | finds hi | finished hi | resolves hi | unresolved hi =>
    rw [hi] at hp
    exact hp.elim
  | refused | overflows | wonders | drains => trivial
  | times hi | waits hi | persists hi | despairs hi | answered hi =>
    rw [hi] at he
    exact he
  | meets hi hf =>
    rw [hi] at he
    obtain ⟨hs, hm, ha⟩ := he
    cases ha with
    | answered _ hw => exact ⟨hs, hm, ⟨hf, rfl⟩, hw, trivial⟩
    | asked hf' | spoiled hf' | missed hf' => cases hf.symm.trans hf'
  | captures hi hk =>
    rw [hi] at he
    obtain ⟨hs, hm, hst, hw, ha⟩ := he
    exact ⟨hs, hm, hst, hw, by rw [hw]; exact ha.next hk⟩
  | holds hi hk =>
    rw [hi] at he
    obtain ⟨rfl, hm, hst, hw, ha⟩ := he
    exact ⟨hst, ⟨hm, nofun⟩, by rw [hw]; exact ha.all hk⟩
  | rewrites hi =>
    rw [hi] at he
    exact ⟨he.1, if_pos rfl, trivial⟩
  | resumes hi =>
    rw [hi] at he
    exact ⟨he.1, he.2.1⟩

theorem Writes.engages (hw : Writes s o f p) (hp : (s.inspectors.get o).IsEngaged)
    (he : (s.inspectors.get o).Engages s.slot set first now h) :
    p.Engages (f s.slot) set first now h := by
  cases hw with
  | aims hi | disarms hi | resets hi =>
    rw [hi] at hp
    exact hp.elim
  | clears hi =>
    rw [hi] at he
    obtain ⟨hs, ha⟩ := he
    refine ⟨hs, rfl, ?_⟩
    cases ha with
    | free hn hc => exact .free hn hc
    | early hf => exact .early hf
  | arms hi =>
    rw [hi] at he
    obtain ⟨hs, hm, ha⟩ := he
    refine ⟨hs, hm, ?_⟩
    cases ha with
    | free hn hc => exact .asked rfl hn hc
    | early => exact .spoiled rfl (.inl rfl)
  | withdraws => trivial
  | overwrites hi hk =>
    rw [hi] at he
    exact ⟨⟨he.1.phase, he.1.parked⟩, he.2.1, he.2.2.next hk⟩
  | overwritten hi hk =>
    rw [hi] at he
    exact ⟨⟨he.1.phase, he.1.parked⟩, he.2.1, he.2.2.all hk⟩
  | marks hi =>
    rw [hi] at he
    obtain ⟨hst, rfl, hw⟩ := he
    exact ⟨⟨hst.phase, hst.parked⟩, ⟨rfl, fun r hr => Option.some.inj hr ▸ hw⟩, rfl⟩
  | resumes hi =>
    rw [hi] at he
    obtain ⟨hst, hc⟩ := he
    exact .waits rfl ⟨hc.mark, hc.words⟩ (.inl hst.parked)

/-- The inspector remembers its request as it was. -/
theorem Moves.request (hm : Moves s o l p) (hp : (s.inspectors.get o).IsEngaged)
    (hq : p.request? = some q) : (s.inspectors.get o).request? = some q := by
  cases hm with
  | asks hi | finds hi | finished hi | resolves hi | unresolved hi =>
    rw [hi] at hp
    exact hp.elim
  | refused | overflows | wonders | drains | resumes => cases hq
  | times hi | meets hi | waits hi | persists hi | despairs hi | answered hi | captures hi | holds hi
  | rewrites hi =>
    rw [hi]
    exact hq

theorem Writes.request (hw : Writes s o f p) (hp : (s.inspectors.get o).IsEngaged)
    (hq : p.request? = some q) : (s.inspectors.get o).request? = some q := by
  cases hw with
  | aims hi | disarms hi | resets hi =>
    rw [hi] at hp
    exact hp.elim
  | withdraws | resumes => cases hq
  | clears hi | arms hi | overwrites hi | overwritten hi | marks hi =>
    rw [hi]
    exact hq

theorem Writes.target (hw : Writes s o f p) (hp : (s.inspectors.get o).IsEngaged) :
    (f s.slot).target = s.slot.target := by
  cases hw with
  | aims hi =>
    rw [hi] at hp
    exact hp.elim
  | _ => rfl

/-- What others do is no business of an OS thread. -/
theorem Moves.setAfter (hm : Moves s x l p) (hx : x ≠ o) : setAfter o set l = set := by
  cases hm with
  | rewrites => exact if_neg hx
  | _ => rfl

end VmHost.Inspect
