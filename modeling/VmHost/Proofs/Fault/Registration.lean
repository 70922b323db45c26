import VmHost.Proofs.Fault.Escalation

/-!
# What registrations go back to

A registration comes from an install, and the install from somebody who has asked for it. What has been
asked for is in the registration as it was asked: the handler, and a target for snapshots exactly if
there is a directory. Only what it records comes later, once for each signal.

* `ordered_of_run`: every registration of a run has been asked for.
* `holds_of_run`: what a registration has recorded stays there.
-/
namespace VmHost.Fault

open State

/-- A registration is there as it was published, and has recorded an action. -/
structure Holds (s : State) (r : Nat) (x : Registration) (k : Kind) (d : Disposition) : Prop where
  registered : ∃ previous, s.registrations[r]? = some { x with previous := previous }
  recorded : s.recorded? r k = some d

/-- Somebody has asked for a registration: for its handler, and for snapshots in a directory exactly if
it has a target. -/
def IsOrdered (past : List Moment) (x : Registration) : Prop :=
  ∃ m ∈ past, ∃ o dir maxFrames, m.label = .ask o (.install x.owner x.handler dir maxFrames) ∧
    checkTarget dir maxFrames = .ok x.target ∧ x.target.isSome = dir.isSome

/-- What an OS thread has to show for its job, as long as that may register something. -/
def Managing.IsOrdered (past : List Moment) : Managing → Prop
  | .locking j | .checking j => ∃ m ∈ past, ∃ o, m.label = .ask o j
  | .publishing x => Fault.IsOrdered past x
  | _ => True

/-- What the registrations of a run go back to. -/
structure Ordered (past : List Moment) (s : State) : Prop where
  managers : ∀ o, (s.managers.get o).IsOrdered past
  registered : ∀ x ∈ s.registrations, IsOrdered past x

variable {s s' s₁ t : State} {l : Label} {o : OsThread} {r : Nat} {k : Kind} {d : Disposition}
  {x : Registration} {past past₂ : List Moment}

/-! ## What is recorded -/

theorem recorded?_congr (h : t.registrations = s.registrations) :
    t.recorded? r k = s.recorded? r k := by
  rw [recorded?, recorded?, h]

/-- What is recorded is not recorded again. -/
theorem Booked.remembers (h : Booked past s) (hs : s.step l = some s')
    (hr : s.recorded? r k = some d) : s'.recorded? r k = some d := by
  rw [← hr]
  cases step_transition hs with
  | moves | takes | avoids | stops | violates => exact recorded?_congr rfl
  | goes ha hg => exact recorded?_congr hg.alike.registrations
  | ends ha hg => exact recorded?_congr hg.alike.registrations
  | alters hm =>
    cases hm with
    | publishes hp => exact recorded?_publish rfl (h.blank _ _ hp) r k
    | @records q j was hp =>
      obtain ⟨hq, hn⟩ := h.recording _ _ _ _ hp
      have he := recorded?_record (d := was) (k := j) (h.published _ _ _ hq) r k
      rw [if_neg fun e => by rw [e.1, e.2, hn] at hr; cases hr] at he
      exact he
    | _ => exact recorded?_congr rfl

theorem Holds.step (h : Holds s r x k d) (hb : Booked past s) (hs : s.step l = some s') :
    Holds s' r x k d where
  registered := by
    obtain ⟨previous, hx⟩ := h.registered
    obtain ⟨previous', hx'⟩ := (step_transition hs).keeps hx
    exact ⟨previous', hx'⟩
  recorded := hb.remembers hs h.recorded

/-- What has been registered and recorded is there whatever happens afterwards. -/
theorem holds_of_run {actions : Kind → Disposition} {disk : Disk} {time : Snapshot.Time}
    {memory : Memory} (h : Machine.Run State.step (.start actions disk time memory) past s₁)
    (hx : Holds s₁ r x k d) (h' : Machine.Run State.step s₁ past₂ s) : Holds s r x k d := by
  induction h' with
  | start => exact hx
  | step l hr hs ih => exact ih.step (booked_of_run (h.append hr)) hs

/-! ## What has been asked for -/

theorem IsOrdered.cons (h : IsOrdered past x) (m : Moment) : IsOrdered (m :: past) x := by
  obtain ⟨y, hy, ho⟩ := h
  exact ⟨y, List.mem_cons_of_mem _ hy, ho⟩

theorem Managing.IsOrdered.cons {j : Managing} (h : j.IsOrdered past) (m : Moment) :
    j.IsOrdered (m :: past) := by
  cases j with
  | locking | checking =>
    obtain ⟨y, hy, hl⟩ := h
    exact ⟨y, List.mem_cons_of_mem _ hy, hl⟩
  | publishing x => exact Fault.IsOrdered.cons h m
  | _ => trivial

theorem isSome_checkTarget {dir : Option Bytes} {n : UInt64} {target : Option Snapshot.Target}
    (h : checkTarget dir n = .ok target) : target.isSome = dir.isSome := by
  cases dir with
  | none =>
    cases h
    rfl
  | some b =>
    cases ht : Snapshot.Target.create b n <;> rw [checkTarget, ht] at h <;> cases h
    rfl

/-- Having looked at the published registration, an OS thread publishes no other one than that which it
has been asked for. -/
theorem decide_isOrdered {j : Job} (h : ∃ m ∈ past, ∃ o, m.label = .ask o j) :
    (s.decide j).IsOrdered past := by
  rcases decide_cases s j with ⟨y, -, hd⟩ | ⟨q, answer, -, hd⟩ | ⟨answer, hd⟩ <;> rw [hd]
  · obtain ⟨dir, n, rfl, ht⟩ := decide_publishing hd
    obtain ⟨m, hm, o, hl⟩ := h
    exact ⟨m, hm, o, dir, n, hl, ht, isSome_checkTarget ht⟩
  · trivial
  · trivial

theorem restored_isOrdered (r : Nat) (k : Kind) (answer : Answer) :
    (restored r k answer).IsOrdered past := by
  cases k <;> trivial

namespace Ordered

theorem start {actions : Kind → Disposition} {disk : Disk} {time : Snapshot.Time}
    {memory : Memory} : Ordered [] (.start actions disk time memory) where
  managers o := by
    rw [State.start, Row.get_empty]
    trivial
  registered := List.forall_mem_nil _

/-- An OS thread goes on with its job. -/
theorem goesOn (h : Ordered past s) {j : Managing} (m : Moment) (hj : j.IsOrdered (m :: past))
    (ht : t.managers = s.managers)
    (hr : ∀ x ∈ t.registrations, IsOrdered past x) : Ordered (m :: past) (t.moveTo o j) where
  managers q := by
    rw [get_moveTo, ht]
    split
    · exact hj
    · exact (h.managers q).cons m
  registered x hx := (hr x hx).cons m

theorem same (h : Ordered past s) (m : Moment) (ht : t.managers = s.managers)
    (hr : t.registrations = s.registrations) : Ordered (m :: past) t where
  managers q := by
    rw [ht]
    exact (h.managers q).cons m
  registered x hx := (h.registered x (hr ▸ hx)).cons m

theorem moves {j : Managing} (h : Ordered past s) (hm : Moves s o l j) :
    Ordered (⟨s, l, s.moveTo o j⟩ :: past) (s.moveTo o j) := by
  refine h.goesOn _ ?_ rfl h.registered
  cases hm with
  | asks => exact ⟨_, List.mem_cons_self, o, rfl⟩
  | looks hp =>
    have hj := h.managers o
    rw [hp] at hj
    exact (decide_isOrdered hj).cons _
  | skips | unrestored => exact restored_isOrdered ..
  | refused | drains => trivial

theorem alters {j : Managing} (h : Ordered past s) (hm : Alters s o t j) :
    Ordered (⟨s, .manage o, t.moveTo o j⟩ :: past) (t.moveTo o j) := by
  have hj := h.managers o
  cases hm with
  | locks hp =>
    rw [hp] at hj
    exact h.goesOn _ (hj.cons _) rfl h.registered
  | publishes hp =>
    rw [hp] at hj
    refine h.goesOn _ trivial rfl fun x hx => ?_
    rcases List.mem_append.mp hx with hx | hx
    · exact h.registered x hx
    · exact List.mem_singleton.mp hx ▸ hj
  | @records r k =>
    refine h.goesOn _ (by cases k <;> trivial) rfl fun x hx => ?_
    obtain ⟨q, hq⟩ := List.mem_iff_getElem?.mp hx
    rw [record, List.getElem?_modify, Option.map_eq_map, Option.map_eq_some_iff] at hq
    obtain ⟨y, hy, rfl⟩ := hq
    have ho := h.registered y (List.mem_of_getElem? hy)
    split
    · exact ho
    · exact ho
  | restores => exact h.goesOn _ (restored_isOrdered ..) rfl h.registered
  | replaces | withdraws | frees | unlocks => exact h.goesOn _ trivial rfl h.registered

theorem step (h : Ordered past s) (hs : s.step l = some s') :
    Ordered (⟨s, l, s'⟩ :: past) s' := by
  cases step_transition hs with
  | moves hm => exact h.moves hm
  | alters hm => exact h.alters hm
  | goes ha hg => exact h.same _ hg.alike.managers hg.alike.registrations
  | ends ha hg => exact h.same _ hg.alike.managers hg.alike.registrations
  | takes | avoids | stops | violates => exact h.same _ rfl rfl

end Ordered

theorem ordered_of_run {actions : Kind → Disposition} {disk : Disk} {time : Snapshot.Time}
    {memory : Memory} (h : Machine.Run State.step (.start actions disk time memory) past s) :
    Ordered past s := by
  induction h with
  | start => exact .start
  | step l _ hs ih => exact ih.step hs

end VmHost.Fault
