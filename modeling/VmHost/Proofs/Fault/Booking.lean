import VmHost.Proofs.Fault.Keeping
import VmHost.Proofs.Run

/-!
# What a registration has recorded

An install publishes its registration first. Then it replaces the actions of the two signals, and
records each in the registration once it has replaced it. So what is recorded was replaced, but not the
other way round: in between, the action is with the OS thread that has replaced it, and nowhere else.

`Booked` is this book of what a run has replaced (`HasReplaced`), and every step keeps it
(`Booked.step`). The registrations have to be kept too (`Tended`): only the holder of the system mutex
is at the actions.
-/
namespace VmHost.Fault

open State

abbrev Moment := Machine.Moment State Label

/-- An install replaces the action of a signal, for its registration. -/
def Replaces (r : Nat) (k : Kind) (d : Disposition) (m : Moment) : Prop :=
  ∃ o, m.label = .manage o ∧ m.before.managers.get o = .replacing r k ∧ m.before.actions k = d

/-- The install of a registration has replaced the action of a signal. -/
def HasReplaced (past : List Moment) (r : Nat) (k : Kind) (d : Disposition) : Prop :=
  ∃ m ∈ past, Replaces r k d m

namespace Managing

/-- The OS thread has yet to replace the action of a signal for a registration. -/
inductive IsAhead : Managing → Nat → Kind → Prop
  | replacing (r : Nat) (k : Kind) : IsAhead (.replacing r k) r k
  | before (r : Nat) : IsAhead (.replacing r .segv) r .bus
  | between (r : Nat) (d : Disposition) : IsAhead (.recording r .segv d) r .bus

/-- The OS thread is about to record what it has replaced. -/
inductive IsRecording : Managing → Prop
  | intro (r : Nat) (k : Kind) (d : Disposition) : IsRecording (.recording r k d)

/-- The OS thread is not at the actions; what it publishes has recorded nothing. -/
def IsApart : Managing → Prop
  | .replacing .. | .recording .. => False
  | .publishing x => ∀ k, x.previous k = none
  | _ => True

theorem IsApart.not_ahead {m : Managing} (h : m.IsApart) (r : Nat) (k : Kind) : ¬ m.IsAhead r k := by
  rintro ⟨⟩ <;> exact h

theorem IsApart.not_recording {m : Managing} (h : m.IsApart) : ¬ m.IsRecording := by
  rintro ⟨⟩
  exact h

end Managing

variable {s s' t : State} {l : Label} {o x : OsThread} {m : Managing} {r : Nat} {k q : Kind}
  {d e : Disposition} {past : List Moment}

/-! ## Reading what is recorded -/

theorem recorded?_record (hr : r < s.registrations.length) (q : Nat) (j : Kind) :
    (s.record r k d).recorded? q j = if q = r ∧ j = k then some d else s.recorded? q j := by
  rw [recorded?, record, recorded?]
  simp only [List.getElem?_modify]
  by_cases h : r = q
  · subst h
    rw [List.getElem?_eq_getElem hr]
    by_cases hj : j = k <;> simp [hj]
  · have : ¬ (q = r ∧ j = k) := fun h' => h h'.1.symm
    rw [if_neg this]
    cases s.registrations[q]? <;> simp [h]

theorem recorded?_publish {y : Registration} (ht : t.registrations = s.registrations ++ [y])
    (hy : ∀ k, y.previous k = none) (q : Nat) (j : Kind) :
    t.recorded? q j = s.recorded? q j := by
  simp only [recorded?, ht, List.getElem?_append]
  split
  · rfl
  · rename_i hq
    rw [List.getElem?_eq_none (Nat.not_lt.mp hq)]
    cases q - s.registrations.length <;> simp [hy]

theorem restored_apart (r : Nat) (k : Kind) (answer : Answer) : (restored r k answer).IsApart := by
  cases k <;> trivial

theorem decide_apart (s : State) (j : Job) : (s.decide j).IsApart := by
  cases j with
  | install owner handler dir maxFrames =>
    simp only [State.decide]
    split
    · trivial
    · split
      · exact fun _ => rfl
      · trivial
  | uninstall owner | dispose owner =>
    simp only [State.decide]
    split <;> trivial
  | owns owner => trivial

/-! ## The books -/

/-- What a run has replaced, and what has been recorded of it. -/
structure Booked (past : List Moment) (s : State) : Prop where
  tended : Tended s
  blank : ∀ o x, s.managers.get o = .publishing x → ∀ k, x.previous k = none
  /-- A registration replaces the action of a signal once. -/
  once : ∀ r k d e, HasReplaced past r k d → HasReplaced past r k e → d = e
  ahead : ∀ o r k, (s.managers.get o).IsAhead r k → ∀ d, ¬ HasReplaced past r k d
  published : ∀ r k d, HasReplaced past r k d → r < s.registrations.length
  recording : ∀ o r k d, s.managers.get o = .recording r k d →
    HasReplaced past r k d ∧ s.recorded? r k = none
  recorded : ∀ r k d, s.recorded? r k = some d → HasReplaced past r k d
  /-- What has been replaced is recorded, or about to be. -/
  replaced : ∀ r k d, HasReplaced past r k d →
    s.recorded? r k = some d ∨ ∃ o, s.managers.get o = .recording r k d

theorem hasReplaced_cons {m : Moment} :
    HasReplaced (m :: past) r k d ↔ Replaces r k d m ∨ HasReplaced past r k d := by
  simp [HasReplaced]

theorem not_hasReplaced_nil : ¬ HasReplaced [] r k d := by
  simp [HasReplaced]

/-- An OS thread that is somewhere else does not replace an action. -/
theorem not_replaces {p : Managing} (hp : s.managers.get o = p) (hr : ∀ r k, p ≠ .replacing r k)
    (r : Nat) (k : Kind) (d : Disposition) : ¬ Replaces r k d ⟨s, .manage o, t⟩ := by
  rintro ⟨x, hl, hx, -⟩
  cases hl
  exact hr r k (hp.symm.trans hx)

/-- Another OS thread still has to record what it has replaced. -/
theorem still_recording {p : Managing} (hp : s.managers.get o = p) (hr : p ≠ .recording r k d)
    (hg : t.managers = s.managers) (h : ∃ x, s.managers.get x = .recording r k d) :
    ∃ x, (t.moveTo o m).managers.get x = .recording r k d := by
  obtain ⟨x, hx⟩ := h
  refine ⟨x, ?_⟩
  rw [get_moveTo, hg, if_neg, hx]
  rintro rfl
  exact hr (hp.symm.trans hx)

namespace Managing

theorem IsAhead.isInside (h : m.IsAhead r k) : m.IsInside := by
  cases h <;> trivial

end Managing

namespace Booked

theorem start {actions : Kind → Disposition} {disk : Disk} {time : Snapshot.Time}
    {memory : Memory} : Booked [] (.start actions disk time memory) where
  tended := .start
  blank o x hx := by rw [State.start, Row.get_empty] at hx; cases hx
  once _ _ _ _ hd := absurd hd not_hasReplaced_nil
  ahead _ _ _ _ _ := not_hasReplaced_nil
  published _ _ _ hd := absurd hd not_hasReplaced_nil
  recording o r k d hx := by rw [State.start, Row.get_empty] at hx; cases hx
  recorded _ _ _ := nofun
  replaced _ _ _ hd := absurd hd not_hasReplaced_nil

/-- Nobody is at the actions, or records what was replaced. -/
theorem same (h : Booked past s) (ht : Tended s') (hr : s'.registrations = s.registrations)
    (hn : ∀ r k d, ¬ Replaces r k d ⟨s, l, s'⟩)
    (hm : ∀ x, s'.managers.get x = s.managers.get x ∨
      ¬ (s.managers.get x).IsRecording ∧ (s'.managers.get x).IsApart) :
    Booked (⟨s, l, s'⟩ :: past) s' := by
  have hp {r k d} : HasReplaced (⟨s, l, s'⟩ :: past) r k d ↔ HasReplaced past r k d :=
    hasReplaced_cons.trans (or_iff_right (hn r k d))
  have hq (r k) : s'.recorded? r k = s.recorded? r k := by rw [recorded?, recorded?, hr]
  refine ⟨ht, fun o x hx => ?_, fun r k d e => ?_, fun o r k ha d => ?_, fun r k d => ?_,
    fun o r k d hx => ?_, fun r k d => ?_, fun r k d hx => ?_⟩
  · rcases hm o with e | ⟨-, ha⟩
    · exact h.blank o x (e ▸ hx)
    · rwa [hx] at ha
  · rw [hp, hp]
    exact h.once r k d e
  · rw [hp]
    rcases hm o with e | ⟨-, hi⟩
    · exact h.ahead o r k (e ▸ ha) d
    · exact absurd ha (hi.not_ahead r k)
  · rw [hp, hr]
    exact h.published r k d
  · rw [hp, hq]
    rcases hm o with e | ⟨-, hi⟩
    · exact h.recording o r k d (e ▸ hx)
    · exact absurd (hx ▸ .intro r k d) hi.not_recording
  · rw [hp, hq]
    exact h.recorded r k d
  · rw [hq]
    rcases h.replaced r k d (hp.mp hx) with he | ⟨o, ho⟩
    · exact .inl he
    · refine .inr ⟨o, ?_⟩
      rcases hm o with e | ⟨hi, -⟩
      · exact e.trans ho
      · exact absurd (ho ▸ .intro r k d) hi

/-- An OS thread goes on with its job, and not at the actions. -/
theorem goesOn (h : Booked past s) (ht : Tended (t.moveTo o m))
    (hr : t.registrations = s.registrations) (hg : t.managers = s.managers)
    (hn : ∀ r k d, ¬ Replaces r k d ⟨s, l, t.moveTo o m⟩)
    (hp : ¬ (s.managers.get o).IsRecording) (hm : m.IsApart) :
    Booked (⟨s, l, t.moveTo o m⟩ :: past) (t.moveTo o m) := by
  refine h.same ht hr hn fun x => ?_
  rw [get_moveTo, hg]
  split
  · rename_i e
    exact .inr ⟨e ▸ hp, hm⟩
  · exact .inl rfl

/-- There is only one OS thread at the actions. -/
theorem alone (h : Booked past s) (ho : (s.managers.get o).IsInside)
    (hx : (s.managers.get x).IsInside) : x = o :=
  Option.some.inj (((h.tended.lock x).mpr hx).symm.trans ((h.tended.lock o).mpr ho))

theorem publishes (h : Booked past s) {y : Registration} (hp : s.managers.get o = .publishing y)
    {t : State} (ht : t = { s with
      registrations := s.registrations ++ [y]
      active := some s.registrations.length }.moveTo o (.replacing s.registrations.length .segv))
    (hs : Tended t) : Booked (⟨s, .manage o, t⟩ :: past) t := by
  have hn {r k d} : HasReplaced (⟨s, .manage o, t⟩ :: past) r k d ↔ HasReplaced past r k d :=
    hasReplaced_cons.trans (or_iff_right (not_replaces hp nofun r k d))
  have hq (r k) : t.recorded? r k = s.recorded? r k := recorded?_publish (ht ▸ rfl) (h.blank o y hp) r k
  have hl : t.registrations.length = s.registrations.length + 1 := by simp [ht, moveTo]
  have hg (x) : t.managers.get x =
      if x = o then .replacing s.registrations.length .segv else s.managers.get x := by
    rw [ht, get_moveTo]
  refine ⟨hs, fun x z hx => ?_, fun r k d e => ?_, fun x r k ha d hd => ?_, fun r k d => ?_,
    fun x r k d hx => ?_, fun r k d => ?_, fun r k d hd => ?_⟩
  · rw [hg] at hx
    split at hx
    · cases hx
    · exact h.blank x z hx
  · rw [hn, hn]
    exact h.once r k d e
  · rw [hg] at ha
    split at ha
    · -- The place of the new registration is one that nothing was replaced for.
      have hr := h.published r k d (hn.mp hd)
      cases ha <;> exact Nat.lt_irrefl _ hr
    · exact h.ahead x r k ha d (hn.mp hd)
  · rw [hn, hl]
    exact fun hd => Nat.lt_succ_of_lt (h.published r k d hd)
  · rw [hg] at hx
    split at hx
    · cases hx
    · rw [hn, hq]
      exact h.recording x r k d hx
  · rw [hn, hq]
    exact h.recorded r k d
  · rw [hq]
    exact (h.replaced r k d (hn.mp hd)).imp_right (ht ▸ still_recording hp nofun rfl)

theorem replaces (h : Booked past s) (hp : s.managers.get o = .replacing r k) {t : State}
    (ht : t = (s.setAction k .ours).moveTo o (.recording r k (s.actions k))) (hs : Tended t) :
    Booked (⟨s, .manage o, t⟩ :: past) t := by
  have hn {q j d} : HasReplaced (⟨s, .manage o, t⟩ :: past) q j d ↔
      (q = r ∧ j = k ∧ d = s.actions k) ∨ HasReplaced past q j d := by
    refine hasReplaced_cons.trans (or_congr_left ⟨?_, ?_⟩)
    · rintro ⟨x, hl, hx, rfl⟩
      cases hl
      cases hp.symm.trans hx
      exact ⟨rfl, rfl, rfl⟩
    · rintro ⟨rfl, rfl, rfl⟩
      exact ⟨o, rfl, hp, rfl⟩
  have hq (q j) : t.recorded? q j = s.recorded? q j := by rw [ht]; rfl
  have hl : t.registrations.length = s.registrations.length := by rw [ht]; rfl
  have hg (x) : t.managers.get x =
      if x = o then .recording r k (s.actions k) else s.managers.get x := by
    rw [ht, get_moveTo]
    rfl
  have hi : (s.managers.get o).IsInside := by rw [hp]; trivial
  refine ⟨hs, fun x z hx => ?_, fun q j d e hd he => ?_, fun x q j ha d hd => ?_,
    fun q j d hd => ?_, fun x q j d hx => ?_, fun q j d hd => ?_, fun q j d hd => ?_⟩
  · rw [hg] at hx
    split at hx
    · cases hx
    · exact h.blank x z hx
  · -- What is replaced now has not been replaced before.
    have hf := h.ahead o r k (hp ▸ .replacing r k)
    rcases hn.mp hd with ⟨rfl, rfl, rfl⟩ | hd
    · rcases hn.mp he with ⟨-, -, rfl⟩ | he
      · rfl
      · exact absurd he (hf e)
    · rcases hn.mp he with ⟨rfl, rfl, rfl⟩ | he
      · exact absurd hd (hf d)
      · exact h.once q j d e hd he
  · rw [hg] at ha
    split at ha
    · -- The second action is still to come when the first one has been replaced.
      cases ha with
      | between =>
        rcases hn.mp hd with ⟨-, hj, -⟩ | hd
        · cases hj
        · exact h.ahead o r .bus (hp ▸ .before r) d hd
    · rename_i hx
      exact hx (h.alone hi ha.isInside)
  · rw [hl]
    rcases hn.mp hd with ⟨rfl, -, -⟩ | hd
    · exact (h.tended.stored.active _ (h.tended.ahead hp trivial).fits).1
    · exact h.published q j d hd
  · rw [hg] at hx
    split at hx
    · cases hx
      refine ⟨hn.mpr (.inl ⟨rfl, rfl, rfl⟩), (hq _ _).trans ?_⟩
      refine Option.eq_none_iff_forall_ne_some.mpr fun e he => ?_
      exact h.ahead o r k (hp ▸ .replacing r k) e (h.recorded r k e he)
    · exact (h.recording x q j d hx).imp (fun hd => hn.mpr (.inr hd)) (hq q j).trans
  · exact hn.mpr (.inr (h.recorded q j d (hq q j ▸ hd)))
  · rw [hq]
    rcases hn.mp hd with ⟨rfl, rfl, rfl⟩ | hd
    · exact .inr ⟨o, by rw [hg, if_pos rfl]⟩
    · exact (h.replaced q j d hd).imp_right (ht ▸ still_recording hp nofun rfl)

theorem records (h : Booked past s) (hp : s.managers.get o = .recording r k d) {t : State}
    (ht : t = (s.record r k d).moveTo o (Fault.recorded r k)) (hs : Tended t) :
    Booked (⟨s, .manage o, t⟩ :: past) t := by
  have hn {q j e} : HasReplaced (⟨s, .manage o, t⟩ :: past) q j e ↔ HasReplaced past q j e :=
    hasReplaced_cons.trans (or_iff_right (not_replaces hp nofun q j e))
  have hr : r < s.registrations.length :=
    (h.tended.stored.active _ (h.tended.ahead hp trivial).fits).1
  have hq (q j) : t.recorded? q j = if q = r ∧ j = k then some d else s.recorded? q j := by
    rw [ht]
    exact recorded?_record hr q j
  have hl : t.registrations.length = s.registrations.length := by
    rw [ht]
    exact length_record ..
  have hg (x) : t.managers.get x = if x = o then Fault.recorded r k else s.managers.get x := by
    rw [ht, get_moveTo]
    rfl
  have hw := (h.recording o r k d hp).1
  refine ⟨hs, fun x z hx => ?_, fun q j e f => ?_, fun x q j ha e => ?_, fun q j e => ?_,
    fun x q j e hx => ?_, fun q j e he => ?_, fun q j e he => ?_⟩
  · rw [hg] at hx
    split at hx
    · cases k <;> cases hx
    · exact h.blank x z hx
  · rw [hn, hn]
    exact h.once q j e f
  · rw [hn]
    rw [hg] at ha
    split at ha
    · cases k with
      | segv =>
        cases ha
        exact h.ahead o r .bus (hp ▸ .between r d) e
      | bus => cases ha
    · exact h.ahead x q j ha e
  · rw [hn, hl]
    exact h.published q j e
  · rw [hg] at hx
    split at hx
    · cases k <;> cases hx
    · rename_i hxo
      exact absurd (h.alone (o := o) (by rw [hp]; trivial) (by rw [hx]; trivial)) hxo
  · rw [hq] at he
    split at he
    · rename_i hqj
      obtain ⟨rfl, rfl⟩ := hqj
      cases he
      exact hn.mpr hw
    · exact hn.mpr (h.recorded q j e he)
  · rw [hq]
    split
    · rename_i hqj
      obtain ⟨rfl, rfl⟩ := hqj
      exact .inl (congrArg some (h.once _ _ _ _ hw (hn.mp he)))
    · rename_i hqj
      refine (h.replaced q j e (hn.mp he)).imp_right (ht ▸ still_recording hp ?_ rfl)
      rintro ⟨⟩
      exact hqj ⟨rfl, rfl⟩

theorem moves (h : Booked past s) (hm : Moves s o l m) (hs : Tended (s.moveTo o m)) :
    Booked (⟨s, l, s.moveTo o m⟩ :: past) (s.moveTo o m) := by
  have hn {p : Managing} (hp : s.managers.get o = p) (hr : ∀ r k, p ≠ .replacing r k)
      (hl : ∀ x, l = .manage x → x = o) (r k d) : ¬ Replaces r k d ⟨s, l, s.moveTo o m⟩ := by
    rintro ⟨x, rfl, hx, -⟩
    obtain rfl := hl x rfl
    exact hr r k (hp.symm.trans hx)
  cases hm with
  | asks hp => exact h.goesOn hs rfl rfl (hn hp nofun nofun) (by rw [hp]; nofun) trivial
  | looks hp =>
    exact h.goesOn hs rfl rfl (hn hp nofun fun _ hl => by cases hl; rfl) (by rw [hp]; nofun)
      (decide_apart ..)
  | refused hp =>
    refine h.goesOn hs rfl rfl ?_ (by rw [hp]; nofun) trivial
    rintro r k d ⟨x, hl, -⟩
    cases hl
  | skips hp =>
    exact h.goesOn hs rfl rfl (hn hp nofun fun _ hl => by cases hl; rfl) (by rw [hp]; nofun)
      (restored_apart ..)
  | unrestored hp =>
    exact h.goesOn hs rfl rfl (hn hp nofun nofun) (by rw [hp]; nofun) (restored_apart ..)
  | drains hp =>
    exact h.goesOn hs rfl rfl (hn hp nofun fun _ hl => by cases hl; rfl) (by rw [hp]; nofun) trivial

theorem alters (h : Booked past s) (hm : Alters s o t m) (hs : Tended (t.moveTo o m)) :
    Booked (⟨s, .manage o, t.moveTo o m⟩ :: past) (t.moveTo o m) := by
  cases hm with
  | publishes hp => exact h.publishes hp rfl hs
  | replaces hp => exact h.replaces hp rfl hs
  | records hp => exact h.records hp rfl hs
  | restores hp =>
    exact h.goesOn hs rfl rfl (not_replaces hp nofun) (by rw [hp]; nofun) (restored_apart ..)
  | locks hp | withdraws hp | frees hp | unlocks hp =>
    exact h.goesOn hs rfl rfl (not_replaces hp nofun) (by rw [hp]; nofun) trivial

theorem step (h : Booked past s) (hs : s.step l = some s') : Booked (⟨s, l, s'⟩ :: past) s' := by
  have ht := h.tended.step hs
  have hn (hl : ∀ o, l ≠ .manage o) (r k d) : ¬ Replaces r k d ⟨s, l, s'⟩ :=
    fun ⟨o, e, _⟩ => hl o e
  cases step_transition hs with
  | moves hm => exact h.moves hm ht
  | alters hm => exact h.alters hm ht
  | goes ha hg =>
    exact h.same ht hg.alike.registrations (hn nofun) fun x =>
      .inl (congrArg (Row.get · x) hg.alike.managers)
  | ends ha he =>
    exact h.same ht he.alike.registrations (hn nofun) fun x =>
      .inl (congrArg (Row.get · x) he.alike.managers)
  | takes | avoids => exact h.same ht rfl (hn nofun) fun x => .inl rfl
  | stops hst => exact h.same ht rfl (hn (by rintro o rfl; cases hst)) fun x => .inl rfl
  | violates hb =>
    refine h.same ht rfl ?_ fun x => .inl rfl
    cases hb with
    | relocks hp | unlocks hp => exact not_replaces hp nofun

end Booked

theorem booked_of_run {actions : Kind → Disposition} {disk : Disk} {time : Snapshot.Time}
    {memory : Memory} (h : Machine.Run State.step (.start actions disk time memory) past s) :
    Booked past s := by
  induction h with
  | start => exact .start
  | step l _ hs ih => exact ih.step hs

end VmHost.Fault
