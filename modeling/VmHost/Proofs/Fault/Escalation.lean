import VmHost.Proofs.Fault.Booking

/-!
# Where a declined fault goes

A fault that a registered handler declines is handed on to the action which was there before. What was
there before is what an install has replaced, and what it has recorded then. Between the two there is
nothing to be read, and the fault goes to the default action, whoever was there before.

* `Followed`: what an activation hands the fault on to is what it has read from the registration that
  it has loaded. Snapshots are taken only where there is a directory.
* `Sourced`: nobody is called by a signal before an install has replaced its action.
* `Escalation` says where declined faults go, step by step, and `escalation_of_run` that this holds
  after every run.
* `declined_in_vain`: the two ways in which a declined fault does not get there.
-/
namespace VmHost.Fault

open State

/-- An activation on an OS thread reads what its registration has recorded for the signal. -/
structure Consults (o : OsThread) (r : Nat) (k : Kind) (was : Option Disposition) (m : Moment) :
    Prop where
  label : m.label = .handle o
  doing : ∃ a rest, m.before.activations.get o = a :: rest ∧ a.doing = .consulting r ∧ a.kind = k
  was : m.before.recorded? r k = was

/-- An activation on an OS thread has read what its registration has recorded for the signal. -/
def HasConsulted (past : List Moment) (o : OsThread) (r : Nat) (k : Kind)
    (was : Option Disposition) : Prop :=
  ∃ m ∈ past, Consults o r k was m

/-- What an activation that has declined relies on. -/
def Activation.Relies (past : List Moment) (s : State) (o : OsThread) (a : Activation) : Prop :=
  match a.doing with
  | .dumping r _ => ∃ x t, s.registrations[r]? = some x ∧ x.target = some t
  | .leaving r was => HasConsulted past o r a.kind was
  | .passing was => ∃ r, HasConsulted past o r a.kind was
  | _ => True

/-- What the activations of a run have been up to. -/
structure Followed (past : List Moment) (s : State) : Prop where
  relies : ∀ o, ∀ a ∈ s.activations.get o, a.Relies past s o
  outcomes : ∀ x ∈ s.outcomes, ∀ was, x.ending = .passed was →
    x.after = x.before ∧ ∃ r, HasConsulted past x.thread r x.kind was
  /-- Registrations are only added. -/
  grows : ∀ m ∈ past, m.before.registrations.length ≤ s.registrations.length

variable {s s' t : State} {l : Label} {o x : OsThread} {m : Managing} {r : Nat} {k : Kind}
  {d : Disposition} {was : Option Disposition} {past : List Moment} {a b : Activation}
  {rest : List Activation} {doing : Doing} {c : Context} {e : Ending}

/-! ## What activations are left -/

theorem mem_goOn (h : b ∈ (t.goOn o a doing).activations.get x) :
    (x = o ∧ b = { a with doing := doing }) ∨ b ∈ t.activations.get x := by
  rw [get_goOn] at h
  split at h
  · rename_i hx
    rcases List.mem_cons.mp h with rfl | h
    · exact .inl ⟨hx, rfl⟩
    · exact .inr (hx ▸ List.mem_of_mem_drop h)
  · exact .inr h

theorem mem_conclude (h : b ∈ (t.conclude o a c e).activations.get x) : b ∈ t.activations.get x := by
  rw [get_conclude] at h
  split at h
  · rename_i hx
    exact hx ▸ List.mem_of_mem_drop h
  · exact h

theorem not_mem_start {actions : Kind → Disposition} {disk : Disk} {time : Snapshot.Time}
    {memory : Memory} : a ∉ (State.start actions disk time memory).activations.get o := by
  rw [State.start, Row.get_empty]
  exact List.not_mem_nil

/-- An activation was there before, has gone on, or is that of a fault that has just been taken. -/
theorem activation_of_step (hs : s.step l = some s') (hb : b ∈ s'.activations.get o) :
    b ∈ s.activations.get o ∨
      (∃ a rest t doing, s.activations.get o = a :: rest ∧ Goes s o a t doing ∧ l = .handle o ∧
        s' = t.goOn o a doing ∧ b = { a with doing := doing }) ∨
      (l = .fault o b.kind b.address b.saved ∧ b.doing = .entering ∧ s.actions b.kind = .ours) := by
  cases step_transition hs with
  | moves | stops | violates | avoids => exact .inl hb
  | alters hm => cases hm <;> exact .inl hb
  | @goes x a rest t doing ha hg =>
    rcases mem_goOn hb with ⟨rfl, rfl⟩ | hb
    · exact .inr (.inl ⟨a, rest, t, doing, ha, hg, rfl, rfl, rfl⟩)
    · exact .inl (hg.alike.activations ▸ hb)
  | ends ha hg => exact .inl (hg.alike.activations ▸ mem_conclude hb)
  | takes _ hk =>
    rw [Row.get_modify] at hb
    split at hb
    · rename_i hx
      subst hx
      rcases List.mem_cons.mp hb with rfl | hb
      · exact .inr (.inr ⟨rfl, rfl, hk⟩)
      · exact .inl hb
    · exact .inl hb

/-! ## What registrations keep -/

/-- What is recorded is all that changes in a registration. -/
theorem Transition.keeps {x : Registration} (h : Transition s l s')
    (hx : s.registrations[r]? = some x) :
    ∃ previous, s'.registrations[r]? = some { x with previous := previous } := by
  cases h with
  | moves => exact ⟨_, hx⟩
  | alters hm =>
    cases hm with
    | publishes =>
      have hr : r < s.registrations.length := (List.getElem?_eq_some_iff.mp hx).1
      exact ⟨_, by simpa [moveTo, List.getElem?_append_left hr] using hx⟩
    | records =>
      simp only [moveTo, record, List.getElem?_modify, hx]
      split
      · exact ⟨_, rfl⟩
      · exact ⟨_, rfl⟩
    | _ => exact ⟨_, hx⟩
  | goes ha hg => exact ⟨_, hg.alike.registrations ▸ hx⟩
  | ends ha he => exact ⟨_, he.alike.registrations ▸ hx⟩
  | takes | avoids | stops | violates => exact ⟨_, hx⟩

/-- Registrations are added, and recorded in; their directories stay as they are. -/
structure Extends (s' s : State) : Prop where
  length : s.registrations.length ≤ s'.registrations.length
  target : ∀ (r : Nat) (x : Registration), s.registrations[r]? = some x →
    ∃ y : Registration, s'.registrations[r]? = some y ∧ y.target = x.target

theorem Transition.extends (h : Transition s l s') : Extends s' s where
  length := Nat.le_of_not_lt fun hl => by
    obtain ⟨_, hx⟩ := h.keeps (List.getElem?_eq_getElem hl)
    exact absurd (List.getElem?_eq_some_iff.mp hx).1 (Nat.lt_irrefl _)
  target r x hx := by
    obtain ⟨previous, hy⟩ := h.keeps hx
    exact ⟨_, hy, rfl⟩

/-! ## One step -/

theorem HasConsulted.mono {later : List Moment} (h : HasConsulted past o r k was)
    (hs : past ⊆ later) : HasConsulted later o r k was := by
  obtain ⟨x, hx, hc⟩ := h
  exact ⟨x, hs hx, hc⟩

theorem HasConsulted.cons (h : HasConsulted past o r k was) (m : Moment) :
    HasConsulted (m :: past) o r k was :=
  h.mono (List.subset_cons_self ..)

/-- What an activation relies on stays. -/
theorem Activation.Relies.step (h : a.Relies past s o) (he : Extends s' s) (m : Moment) :
    a.Relies (m :: past) s' o := by
  unfold Activation.Relies at h ⊢
  split
  · rename_i hd
    rw [hd] at h
    obtain ⟨x, t, hx, ht⟩ := h
    obtain ⟨y, hy, hty⟩ := he.target _ x hx
    exact ⟨y, t, hy, hty.trans ht⟩
  · rename_i hd
    rw [hd] at h
    exact h.cons m
  · rename_i hd
    rw [hd] at h
    obtain ⟨r, hr⟩ := h
    exact ⟨r, hr.cons m⟩
  · trivial

/-- An activation that goes on finds what it relies on next. -/
theorem Goes.relies (h : Goes s o a t doing) (ha : s.activations.get o = a :: rest)
    (hr : a.Relies past s o) :
    ({ a with doing := doing } : Activation).Relies
      (⟨s, .handle o, t.goOn o a doing⟩ :: past) (t.goOn o a doing) o := by
  cases h with
  | reports _ hx _ ht =>
    obtain ⟨t, ht⟩ := Option.isSome_iff_exists.mp ht
    exact ⟨_, t, hx, ht⟩
  | consults hd => exact ⟨_, List.mem_cons_self, rfl, ⟨a, rest, ha, hd, rfl⟩, rfl⟩
  | leaves hd =>
    rw [Activation.Relies, hd] at hr
    exact ⟨_, hr.cons _⟩
  | enters | finds | misses | resumes | declines | dumps | recurs => trivial

namespace Followed

theorem start {actions : Kind → Disposition} {disk : Disk} {time : Snapshot.Time}
    {memory : Memory} : Followed [] (.start actions disk time memory) where
  relies _ _ ha := absurd ha not_mem_start
  outcomes x hx := by cases hx
  grows := List.forall_mem_nil _

/-- An activation that hands a fault on hands it on to what it has read. -/
theorem ends (h : Followed past s) (ha : s.activations.get o = a :: rest) (hg : Ends s a t c e) :
    ∀ was, e = .passed was → c = a.saved ∧ ∃ r, HasConsulted past o r a.kind was := by
  rintro was rfl
  have hr := h.relies o a (ha ▸ List.mem_cons_self)
  cases hg with
  | defaults hd | chains hd =>
    rw [Activation.Relies, hd] at hr
    exact ⟨rfl, hr⟩

theorem outcomes_step (h : Followed past s) (hs : s.step l = some s') :
    ∀ x ∈ s'.outcomes, ∀ was, x.ending = .passed was →
      x.after = x.before ∧ ∃ r, HasConsulted past x.thread r x.kind was := by
  cases step_transition hs with
  | moves | stops | violates | takes => exact h.outcomes
  | alters hm => cases hm <;> exact h.outcomes
  | goes ha hg => cases hg <;> exact h.outcomes
  | @ends o a rest t c e ha hg =>
    have ho : (t.conclude o a c e).outcomes = ⟨o, a.kind, a.address, a.saved, c, e⟩ :: s.outcomes := by
      cases hg <;> rfl
    rw [ho]
    exact List.forall_mem_cons.mpr ⟨h.ends ha hg, h.outcomes⟩
  | avoids => exact List.forall_mem_cons.mpr ⟨nofun, h.outcomes⟩

theorem step (h : Followed past s) (hs : s.step l = some s') :
    Followed (⟨s, l, s'⟩ :: past) s' where
  relies o b hb := by
    rcases activation_of_step hs hb with hb | ⟨a, rest, t, doing, ha, hg, rfl, rfl, rfl⟩ | ⟨-, hd, -⟩
    · exact (h.relies o b hb).step (step_transition hs).extends _
    · exact hg.relies ha (h.relies o a (ha ▸ List.mem_cons_self))
    · rw [Activation.Relies, hd]
      trivial
  outcomes x hx was hw := by
    obtain ⟨hc, r, hr⟩ := h.outcomes_step hs x hx was hw
    exact ⟨hc, r, hr.cons _⟩
  grows := by
    have he := (step_transition hs).extends
    exact List.forall_mem_cons.mpr ⟨he.length, fun m hm => Nat.le_trans (h.grows m hm) he.length⟩

end Followed

/-! ## Where faults come from -/

/-- Whoever handles a fault, or would, has been called since an install replaced the action of its
signal. -/
def Sourced (past : List Moment) (s : State) : Prop :=
  ∀ k, (s.actions k = .ours ∨ ∃ o, ∃ a ∈ s.activations.get o, a.kind = k) →
    ∃ r d, HasReplaced past r k d

theorem HasReplaced.cons (h : HasReplaced past r k d) (m : Moment) : HasReplaced (m :: past) r k d :=
  hasReplaced_cons.mpr (.inr h)

namespace Sourced

theorem start {actions : Kind → Disposition} {disk : Disk} {time : Snapshot.Time}
    {memory : Memory} (h₀ : ∀ k, actions k ≠ .ours) :
    Sourced [] (.start actions disk time memory) := by
  rintro k (hk | ⟨o, a, ha, -⟩)
  · exact absurd hk (h₀ k)
  · exact absurd ha not_mem_start

/-- Whoever handles a fault was called by its action. -/
theorem kind_of_step (hs : s.step l = some s') (hb : b ∈ s'.activations.get o) :
    s.actions b.kind = .ours ∨ ∃ x, ∃ a ∈ s.activations.get x, a.kind = b.kind := by
  rcases activation_of_step hs hb with hb | ⟨a, rest, t, doing, ha, -, -, -, rfl⟩ | ⟨-, -, hk⟩
  · exact .inr ⟨o, b, hb, rfl⟩
  · exact .inr ⟨o, a, ha ▸ List.mem_cons_self, rfl⟩
  · exact .inl hk

/-- Actions come from what was there, or from an install. -/
theorem mono (h : Sourced past s) (hs : s.step l = some s')
    (hk : ∀ k, s'.actions k = .ours →
      s.actions k = .ours ∨ ∃ r d, HasReplaced (⟨s, l, s'⟩ :: past) r k d) :
    Sourced (⟨s, l, s'⟩ :: past) s' := by
  have hp (k) (hk : s.actions k = .ours ∨ ∃ o, ∃ a ∈ s.activations.get o, a.kind = k) :
      ∃ r d, HasReplaced (⟨s, l, s'⟩ :: past) r k d := by
    obtain ⟨r, d, hd⟩ := h k hk
    exact ⟨r, d, hd.cons _⟩
  rintro k (hd | ⟨o, b, hb, rfl⟩)
  · exact (hk k hd).elim (fun hd => hp k (.inl hd)) id
  · exact hp _ (kind_of_step hs hb)

/-- Only the action of a signal is changed that an install has replaced before. -/
theorem sets (h : Sourced past s) (hs : s.step l = some s')
    (hk : ∀ q, q ≠ k → s'.actions q = s.actions q)
    (hd : HasReplaced (⟨s, l, s'⟩ :: past) r k d) : Sourced (⟨s, l, s'⟩ :: past) s' := by
  refine h.mono hs fun q hq => ?_
  by_cases e : q = k
  · exact .inr ⟨r, d, e ▸ hd⟩
  · exact .inl (hk q e ▸ hq)

theorem step (h : Sourced past s) (hb : Booked past s) (hs : s.step l = some s') :
    Sourced (⟨s, l, s'⟩ :: past) s' := by
  cases step_transition hs with
  | moves | takes | avoids | stops | violates => exact h.mono hs fun _ => .inl
  | alters hm =>
    cases hm with
    | replaces hp =>
      exact h.sets hs (fun q e => by simp [moveTo, setAction, e])
        ⟨_, List.mem_cons_self, _, rfl, hp, rfl⟩
    | restores hp hr =>
      exact h.sets hs (fun q e => by simp [moveTo, setAction, e]) ((hb.recorded _ _ _ hr).cons _)
    | _ => exact h.mono hs fun _ => .inl
  | goes ha hg => exact h.mono hs fun k hk => .inl (by cases hg <;> exact hk)
  | @ends o a rest t c e ha hg =>
    refine h.mono hs fun k hk => .inl ?_
    cases hg with
    | defaults =>
      by_cases e : k = a.kind
      · simp [conclude, setAction, e] at hk
      · simpa [conclude, setAction, e] using hk
    | _ => exact hk

end Sourced

/-! ## Whole runs -/

namespace State

/-- The process goes on. -/
def IsRunning (s : State) : Prop := s.ended = none ∧ s.violation = none

/-- An install has replaced the action of a signal, and not recorded it yet. -/
def Owes (s : State) (r : Nat) (k : Kind) : Prop := ∃ o d, s.managers.get o = .recording r k d

end State

/-- The way of the faults that registered handlers decline. -/
structure Escalation (past : List Moment) (s : State) : Prop where
  /-- There is one action that the install of a registration has replaced for a signal. -/
  once : ∀ r k d e, HasReplaced past r k d → HasReplaced past r k e → d = e
  /-- An activation whose handler declines goes on to the snapshot or to the recorded action, -/
  declines : ∀ o a rest r, s.activations.get o = a :: rest → a.doing = .handling r → s.IsRunning →
    ∃ x, s.registrations[r]? = some x ∧ ((x.handler (viewOf a)).2 = .decline →
      ∃ doing, s.step (.handle o) = some ((s.called o a x).goOn o a doing) ∧
        (doing = .dumping r (viewAfter a x) ∨ doing = .consulting r))
  /-- from the snapshot to the recorded action, unless the walk breaks off, -/
  dumps : ∀ o a rest r v, s.activations.get o = a :: rest → a.doing = .dumping r v → s.IsRunning →
    ∃ x t result disk, s.registrations[r]? = some x ∧ x.target = some t ∧
      Snapshot.write t s.disk s.time v o s.memory = (result, disk) ∧
      s.step (.handle o) = some (if result = .broken then
        { s with disk := disk, ended := some .abort }
        else { s with disk := disk }.goOn o a (.consulting r))
  /-- reads the recorded action, -/
  consults : ∀ o a rest r, s.activations.get o = a :: rest → a.doing = .consulting r → s.IsRunning →
    s.step (.handle o) = some (s.goOn o a (.leaving r (s.recorded? r a.kind)))
  /-- counts itself out, -/
  leaves : ∀ o a rest r was, s.activations.get o = a :: rest → a.doing = .leaving r was →
    s.IsRunning →
    s.step (.handle o) = some ({ s with inFlight := s.inFlight - 1 }.goOn o a (.passing was))
  /-- and hands the fault on to what it has read. -/
  chains : ∀ o a rest was, s.activations.get o = a :: rest → a.doing = .passing was →
    s.IsRunning → s.step (.handle o) = some (s.passOn o a was)
  carried : ∀ o, ∀ a ∈ s.activations.get o,
    (∀ r was, a.doing = .leaving r was → HasConsulted past o r a.kind was) ∧
      ∀ was, a.doing = .passing was → ∃ r, HasConsulted past o r a.kind was
  passed : ∀ x ∈ s.outcomes, ∀ was, x.ending = .passed was →
    x.after = x.before ∧ ∃ r, HasConsulted past x.thread r x.kind was
  /-- A handler changes an action only to reinstate the default, where it has read no other. -/
  reinstated : ∀ m ∈ past, ∀ o k, m.label = .handle o → m.after.actions k ≠ m.before.actions k →
    m.after.actions k = .default ∧
      ∃ r was, HasConsulted past o r k was ∧ (was = none ∨ was = some .default)
  /-- What was read is the action that the install of that registration has replaced. -/
  replaced : ∀ o r k d, HasConsulted past o r k (some d) → HasReplaced past r k d
  /-- As long as there has been one registration, there was nothing to be read exactly if its install
  still had to record what it had replaced. -/
  window : s.registrations.length ≤ 1 → ∀ m ∈ past, ∀ o r k was, Consults o r k was m →
    (was = none ↔ m.before.Owes r k)

/-- An activation that uses a registration finds it. -/
theorem Booked.find (h : Booked past s) (ha : s.activations.get o = a :: rest)
    (hr : a.doing.registration? = some r) : ∃ x, s.registrations[r]? = some x :=
  ⟨_, List.getElem?_eq_getElem (h.tended.stored.used o r ⟨a, ha ▸ List.mem_cons_self, hr⟩).1⟩

theorem step_handle (h : s.IsRunning) : s.step (.handle o) = s.handle o := by
  simp [State.step, h.1, h.2]

theorem Booked.declines (h : Booked past s) (ha : s.activations.get o = a :: rest)
    (hd : a.doing = .handling r) (hr : s.IsRunning) :
    ∃ x, s.registrations[r]? = some x ∧ ((x.handler (viewOf a)).2 = .decline →
      ∃ doing, s.step (.handle o) = some ((s.called o a x).goOn o a doing) ∧
        (doing = .dumping r (viewAfter a x) ∨ doing = .consulting r)) := by
  obtain ⟨x, hx⟩ := h.find ha (by rw [hd]; rfl)
  refine ⟨x, hx, fun hc => ?_⟩
  refine ⟨if x.target.isSome then .dumping r (viewAfter a x) else .consulting r, ?_, ?_⟩
  · simp only [step_handle hr, State.handle, ha, hd, hx, Option.map_some, runHandler, called,
      viewAfter, hc]
  · split
    · exact .inl rfl
    · exact .inr rfl

theorem Followed.dumps (h : Followed past s) (ha : s.activations.get o = a :: rest) {v : View}
    (hd : a.doing = .dumping r v) (hr : s.IsRunning) :
    ∃ x t result disk, s.registrations[r]? = some x ∧ x.target = some t ∧
      Snapshot.write t s.disk s.time v o s.memory = (result, disk) ∧
      s.step (.handle o) = some (if result = .broken then
        { s with disk := disk, ended := some .abort }
        else { s with disk := disk }.goOn o a (.consulting r)) := by
  have hf := h.relies o a (ha ▸ List.mem_cons_self)
  rw [Activation.Relies, hd] at hf
  obtain ⟨x, t, hx, ht⟩ := hf
  obtain ⟨result, disk, hw⟩ : ∃ result disk,
      Snapshot.write t s.disk s.time v o s.memory = (result, disk) := ⟨_, _, rfl⟩
  refine ⟨x, t, result, disk, hx, ht, hw, ?_⟩
  simp only [step_handle hr, State.handle, ha, hd, hx, Option.bind_some, ht, Option.map_some, dump,
    hw]
  cases result <;> rfl

/-- A handler leaves the actions alone, unless it has nothing to hand the fault on to. -/
theorem Followed.reinstates (h : Followed past s) (hs : s.step (.handle o) = some s')
    (hk : s'.actions k ≠ s.actions k) :
    s'.actions k = .default ∧
      ∃ r was, HasConsulted past o r k was ∧ (was = none ∨ was = some .default) := by
  cases step_transition hs with
  | moves | stops => exact absurd rfl hk
  | goes ha hg => cases hg <;> exact absurd rfl hk
  | @ends o a rest t c e ha hg =>
    cases hg with
    | defaults hd hw =>
      have hr := h.relies o a (ha ▸ List.mem_cons_self)
      rw [Activation.Relies, hd] at hr
      obtain ⟨r, hr⟩ := hr
      by_cases hka : k = a.kind
      · subst hka
        refine ⟨by simp [conclude, setAction], r, _, hr, ?_⟩
        exact (Option.getD_eq_iff.mp hw).symm.imp_left (·.1)
      · exact absurd (by simp [conclude, setAction, hka]) hk
    | _ => exact absurd rfl hk

/-- Whoever handles a fault while nothing is recorded for its signal does so in the window. -/
theorem Booked.owes_iff (h : Booked past s) (hs : Sourced past s) (hl : s.registrations.length ≤ 1)
    (ha : s.activations.get o = a :: rest) (hr : a.doing.registration? = some r) :
    s.recorded? r a.kind = none ↔ s.Owes r a.kind := by
  constructor
  · intro hn
    obtain ⟨q, d, hd⟩ := hs a.kind (.inr ⟨o, a, ha ▸ List.mem_cons_self, rfl⟩)
    have hq := h.published q a.kind d hd
    have hu := (h.tended.stored.used o r ⟨a, ha ▸ List.mem_cons_self, hr⟩).1
    -- There is only one registration.
    obtain rfl : q = r := by omega
    rcases h.replaced q a.kind d hd with he | ⟨x, hx⟩
    · cases hn.symm.trans he
    · exact ⟨x, d, hx⟩
  · rintro ⟨x, d, hx⟩
    exact (h.recording x r a.kind d hx).2

theorem sourced_of_run {actions : Kind → Disposition} {disk : Disk} {time : Snapshot.Time}
    {memory : Memory} (h₀ : ∀ k, actions k ≠ .ours)
    (h : Machine.Run State.step (.start actions disk time memory) past s) : Sourced past s := by
  induction h with
  | start => exact .start h₀
  | step l hr hs ih => exact ih.step (booked_of_run hr) hs

theorem followed_of_run {actions : Kind → Disposition} {disk : Disk} {time : Snapshot.Time}
    {memory : Memory} (h : Machine.Run State.step (.start actions disk time memory) past s) :
    Followed past s := by
  induction h with
  | start => exact .start
  | step l _ hs ih => exact ih.step hs

/-- **Where a declined fault goes.** Whatever faults are taken while handlers are installed and
removed, a fault that a handler declines goes to the action that was recorded for its signal. That is
the action which the install has replaced; there is none only in the window before it is recorded. -/
theorem escalation_of_run {actions : Kind → Disposition} {disk : Disk} {time : Snapshot.Time}
    {memory : Memory} (h₀ : ∀ k, actions k ≠ .ours)
    (h : Machine.Run State.step (.start actions disk time memory) past s) :
    Escalation past s where
  once := (booked_of_run h).once
  declines _ _ _ _ := (booked_of_run h).declines
  dumps _ _ _ _ _ ha := (followed_of_run h).dumps ha
  consults o a rest r ha hd hr := by simp only [step_handle hr, State.handle, ha, hd]
  leaves o a rest r was ha hd hr := by simp only [step_handle hr, State.handle, ha, hd]
  chains o a rest was ha hd hr := by simp only [step_handle hr, State.handle, ha, hd]
  carried o a ha := by
    have hf := (followed_of_run h).relies o a ha
    unfold Activation.Relies at hf
    refine ⟨fun r was hd => ?_, fun was hd => ?_⟩ <;> simpa only [hd] using hf
  passed := (followed_of_run h).outcomes
  reinstated m hm o k hl hk := by
    obtain ⟨later, earlier, rfl⟩ := List.append_of_mem hm
    obtain ⟨hr, hs⟩ := h.split
    obtain ⟨hd, r, was, hc, hw⟩ := (followed_of_run hr).reinstates (hl ▸ hs) hk
    exact ⟨hd, r, was, hc.mono fun x hx => by simp [hx], hw⟩
  replaced o r k d := by
    rintro ⟨m, hm, -, -, hw⟩
    obtain ⟨later, earlier, rfl⟩ := List.append_of_mem hm
    obtain ⟨x, hx, hd⟩ := (booked_of_run h.split.1).recorded r k d hw
    exact ⟨x, List.mem_append_right _ (List.mem_cons_of_mem _ hx), hd⟩
  window hl m hm o r k was := by
    rintro ⟨-, ⟨a, rest, ha, hd, rfl⟩, rfl⟩
    obtain ⟨earlier, hr, -⟩ := h.of_mem hm
    exact (booked_of_run hr).owes_iff (sourced_of_run h₀ hr)
      (Nat.le_trans ((followed_of_run h).grows m hm) hl) ha (by rw [hd]; rfl)

/-! ### Faults in the window, and a snapshot that breaks off -/

/-- Both signals call somebody's handler, and there is a directory. -/
def attended : State := .start (fun _ => .detailed) ⟨[([[0x64]], .directory)], []⟩ ⟨0, 0⟩ .none

def decliner : Handler := fun _ => (⟨.none, .none, .none, .none⟩, .decline)

/-- A handler that leaves the last frame pointer there is, and declines. -/
def wrecker : Handler := fun _ => (⟨none, some 0xFFFFFFFFFFFFFFF8, some 0, none⟩, .decline)

/-- Thread 0 installs a handler. When it has replaced the first action, thread 1 takes a fault, which
the handler declines. -/
def inWindow : List Label :=
  .ask 0 (.install 1 decliner none 16) :: List.replicate 4 (.manage 0) ++
    .fault 1 .segv 16 .zero :: List.replicate 6 (.handle 1)

/-- Thread 0 is done with its install when thread 1 takes a fault of the other kind. -/
def afterWindow : List Label :=
  List.replicate 4 (.manage 0) ++ .fault 1 .bus 16 .zero :: List.replicate 6 (.handle 1)

/-- Thread 0 installs a handler with a directory for snapshots, and takes a fault. -/
def toWreck : List Label :=
  .ask 0 (.install 1 wrecker (some [0x2F, 0x64]) 2) :: List.replicate 8 (.manage 0) ++
    .fault 0 .segv 16 .zero :: List.replicate 4 (.handle 0)

theorem escalation_attended : ∃ past s, Machine.Run State.step attended past s ∧
    (∀ k : Kind, (fun _ => Disposition.detailed) k ≠ .ours) ∧ s.registrations.length = 1 ∧
    s.outcomes.map (·.ending) = [.passed (some .detailed), .passed none] ∧ Escalation past s := by
  obtain ⟨past, s, h, hp⟩ := Machine.exists_run State.step attended
    (fun _ s => s.registrations.length = 1 ∧
      s.outcomes.map (·.ending) = [.passed (some .detailed), .passed none])
    (inWindow ++ afterWindow) (by decide +kernel)
  simp only [decide_eq_true_eq] at hp
  have h₀ : ∀ k : Kind, (fun _ => Disposition.detailed) k ≠ .ours := fun _ => nofun
  exact ⟨past, s, h, h₀, hp.1, hp.2, escalation_of_run h₀ h⟩

/-- In the window a declined fault goes to the default action, although it was somebody's handler that
the install has replaced. And where the walk of the snapshot breaks off, the process ends before that
handler is called. -/
theorem declined_in_vain :
    (∃ past s, Machine.Run State.step attended past s ∧ HasReplaced past 0 .segv .detailed ∧
      s.handled.map (·.action) = [.decline] ∧ s.outcomes.map (·.ending) = [.passed none] ∧
      s.actions .segv = .default) ∧
    ∃ past s, Machine.Run State.step attended past s ∧ HasReplaced past 0 .segv .detailed ∧
      s.handled.map (·.action) = [.decline] ∧ s.outcomes.map (·.ending) = [] ∧
      s.ended = some .abort := by
  constructor
  · obtain ⟨past, s, h, hp⟩ := Machine.exists_run State.step attended
      (fun _ s => s.managers.get 0 matches .recording 0 .segv .detailed ∧
        s.handled.map (·.action) = [.decline] ∧ s.outcomes.map (·.ending) = [.passed none] ∧
        s.actions .segv = .default)
      inWindow (by decide +kernel)
    simp only [decide_eq_true_eq] at hp
    obtain ⟨hm, hrest⟩ := hp
    refine ⟨past, s, h, ?_, hrest⟩
    split at hm
    · rename_i he
      exact ((booked_of_run h).recording _ _ _ _ he).1
    · cases hm
  · obtain ⟨past, s, h, hp⟩ := Machine.exists_run State.step attended
      (fun _ s => s.recorded? 0 .segv = some .detailed ∧
        s.handled.map (·.action) = [.decline] ∧ s.outcomes.map (·.ending) = [] ∧
        s.ended = some .abort)
      toWreck (by decide +kernel)
    simp only [decide_eq_true_eq] at hp
    exact ⟨past, s, h, (booked_of_run h).recorded _ _ _ hp.1, hp.2⟩

end VmHost.Fault
