import VmHost.Proofs.Fault.Transition
import VmHost.Proofs.Row

/-!
# How registrations are kept

Registrations are published and freed by the holder of the system mutex, and used by activations that
take no mutex but count themselves in. `Stored` is what holds of the registrations in the light of
what the holder of the mutex is about to do; `Tended` adds the mutex itself and the counter. Every
step preserves it (`Tended.step`), whoever takes it.

* `Stored.publishes`, `Stored.withdraws`, `Stored.frees`: a registration comes, is unpublished, and
  goes.
* `not_uses`: while the counter is zero, no registration is in use.
-/
namespace VmHost.Fault

open State

namespace Doing

/-- The activation is counted in. -/
def isCounted : Doing → Bool
  | .entering | .passing _ => false
  | _ => true

/-- The registration that the activation uses. -/
def registration? : Doing → Option Nat
  | .handling r | .resuming r _ | .dumping r _ | .consulting r | .leaving r _ => some r
  | .entering | .loading | .dismissing | .passing _ => none

/-- The activation counts itself out with its next step. -/
inductive IsExit : Doing → Prop
  | dismissing : IsExit .dismissing
  | resuming (r : Nat) (v : View) : IsExit (.resuming r v)
  | leaving (r : Nat) (was : Option Disposition) : IsExit (.leaving r was)

theorem isCounted_of_registration? {d : Doing} {r : Nat} (h : d.registration? = some r) :
    d.isCounted = true := by
  cases d <;> first | rfl | cases h

theorem IsExit.isCounted {d : Doing} (h : d.IsExit) : d.isCounted = true := by
  cases h <;> rfl

end Doing

namespace State

/-- A registration has been published and not been freed. -/
def Keeps (s : State) (r : Nat) : Prop := r < s.registrations.length ∧ r ∉ s.freed

/-- An activation on an OS thread uses a registration. -/
def Uses (s : State) (o : OsThread) (r : Nat) : Prop :=
  ∃ a ∈ s.activations.get o, a.doing.registration? = some r

/-- How many activations are counted in. -/
def counted (s : State) : Nat := s.activations.total fun l => l.countP fun a => a.doing.isCounted

/-- What the holder of the system mutex is about to do. -/
def inside (s : State) : Managing :=
  match s.lock.holder with
  | some o => s.managers.get o
  | none => .out none

end State

namespace Managing

/-- The OS thread has the system mutex. -/
def IsInside : Managing → Prop
  | .out _ | .locking _ => False
  | _ => True

/-- The registration that has been unpublished and is to be freed. -/
def retiring? : Managing → Option Nat
  | .restoring r .. | .draining r _ | .freeing r _ => some r
  | _ => none

/-- What an OS thread can rely on before its next step. -/
def Fits (s : State) : Managing → Prop
  | .publishing _ => s.active = none
  | .replacing r _ | .recording r .. | .withdrawing r _ => s.active = some r
  | .restoring r .. | .draining r _ => s.active = none ∧ s.Keeps r
  | .freeing r _ => s.active = none ∧ s.Keeps r ∧ ∀ o, ¬ s.Uses o r
  | _ => True

end Managing

/-- Registrations are where they should be when the holder of the system mutex is at this place. -/
structure Stored (s : State) (m : Managing) : Prop where
  active : ∀ r, s.active = some r → s.Keeps r
  used : ∀ o r, s.Uses o r → s.Keeps r
  fits : m.Fits s
  retired : ∀ r < s.registrations.length, r ∈ s.freed ∨ s.active = some r ∨ m.retiring? = some r
  nodup : s.freed.Nodup
  published : ∀ r ∈ s.freed, r < s.registrations.length

/-- The system mutex, the counter and the registrations are in order. -/
structure Tended (s : State) : Prop where
  lock : ∀ o, s.lock.holder = some o ↔ (s.managers.get o).IsInside
  counted : s.inFlight = s.counted
  stored : Stored s s.inside

variable {s s' t : State} {l : Label} {o : OsThread} {m m' : Managing} {a : Activation}
  {rest : List Activation} {d : Doing} {c : Context} {e : Ending} {r : Nat}

/-! ## The counter -/

theorem counted_goOn (ha : s.activations.get o = a :: rest) :
    (s.goOn o a d).counted + a.doing.isCounted.toNat = s.counted + d.isCounted.toNat := by
  refine Row.total_set rfl ?_
  simp only [ha, List.countP_cons, List.drop_one, List.tail_cons]
  cases a.doing.isCounted <;> cases d.isCounted <;> simp

theorem counted_conclude (ha : s.activations.get o = a :: rest) :
    (s.conclude o a c e).counted + a.doing.isCounted.toNat = s.counted := by
  refine Row.total_set (c := 0) rfl ?_
  simp only [ha, List.countP_cons, List.drop_one, List.tail_cons]
  cases a.doing.isCounted <;> simp

theorem counted_pos (ha : a ∈ s.activations.get o) (hc : a.doing.isCounted = true) :
    0 < s.counted := by
  have hl := Row.le_total (f := fun l : List Activation => l.countP fun a => a.doing.isCounted)
    rfl s.activations o
  have hp : 0 < (s.activations.get o).countP fun a => a.doing.isCounted :=
    List.countP_pos_iff.mpr ⟨a, ha, hc⟩
  exact Nat.lt_of_lt_of_le hp hl

/-- While nobody is counted in, nobody uses a registration. -/
theorem not_uses (h : s.counted = 0) : ¬ s.Uses o r := fun ⟨_, ha, hr⟩ =>
  Nat.ne_of_gt (counted_pos ha (Doing.isCounted_of_registration? hr)) h

/-! ## What activations leave alone -/

/-- Two states agree on the mutex, the jobs, the registrations and the activations. -/
structure Alike (t s : State) : Prop where
  lock : t.lock = s.lock
  managers : t.managers = s.managers
  active : t.active = s.active
  registrations : t.registrations = s.registrations
  freed : t.freed = s.freed
  activations : t.activations = s.activations

theorem Goes.alike (h : Goes s o a t d) : Alike t s := by
  cases h <;> exact ⟨rfl, rfl, rfl, rfl, rfl, rfl⟩

theorem Ends.alike (h : Ends s a t c e) : Alike t s := by
  cases h <;> exact ⟨rfl, rfl, rfl, rfl, rfl, rfl⟩

/-- The counter follows an activation that goes on. -/
theorem Goes.inFlight (h : Goes s o a t d) (hn : a.doing.isCounted = true → 0 < s.inFlight) :
    t.inFlight + a.doing.isCounted.toNat = s.inFlight + d.isCounted.toNat := by
  cases h with
  | leaves hd =>
    rw [hd] at hn ⊢
    exact Nat.succ_pred_eq_of_pos (hn rfl)
  | _ hd => rw [hd]; rfl

/-- The counter follows an activation that ends. -/
theorem Ends.inFlight (h : Ends s a t c e) (hn : a.doing.isCounted = true → 0 < s.inFlight) :
    t.inFlight + a.doing.isCounted.toNat = s.inFlight := by
  cases h with
  | dismissed hd | resumed hd =>
    rw [hd] at hn ⊢
    exact Nat.succ_pred_eq_of_pos (hn rfl)
  | defaults hd | chains hd => rw [hd]; rfl

/-- The only way to a registration is the published word. -/
theorem Goes.uses (h : Goes s o a t d) (hr : d.registration? = some r) :
    a.doing.registration? = some r ∨ s.active = some r := by
  cases h with
  | finds hd ha => exact .inr (ha.trans hr)
  | enters | misses | leaves | recurs => cases hr
  | resumes hd | reports hd | declines hd | dumps hd | consults hd => exact .inl (hd ▸ hr)

/-! ## Registrations before and after a step -/

namespace Stored

/-- The holder of the mutex goes on. -/
theorem next (h : Stored s m) (hf : m'.Fits s)
    (hr : ∀ r, m.retiring? = some r → m'.retiring? = some r) : Stored s m' :=
  { h with
    fits := hf
    retired := fun r hl => (h.retired r hl).imp_right (.imp_right (hr r)) }

/-- Activations go on, and find at most the published registration. -/
theorem same (h : Stored s m) (hl : t.registrations.length = s.registrations.length)
    (hf : t.freed = s.freed) (ha : t.active = s.active)
    (hu : ∀ o r, t.Uses o r → s.Uses o r ∨ s.active = some r) : Stored t m := by
  have hk (r : Nat) : t.Keeps r ↔ s.Keeps r := by rw [Keeps, Keeps, hl, hf]
  refine ⟨fun r hr => ?_, fun o r hr => ?_, ?_, ?_, ?_, ?_⟩
  · rw [hk]
    exact h.active r (ha ▸ hr)
  · rw [hk]
    exact (hu o r hr).elim (h.used o r) (h.active r)
  · have hm := h.fits
    cases m <;> simp only [Managing.Fits, ha, hk] at hm ⊢ <;> try exact hm
    refine ⟨hm.1, hm.2.1, fun o hr => ?_⟩
    exact (hu o _ hr).elim (hm.2.2 o) fun he => by rw [hm.1] at he; cases he
  · rw [hl, hf, ha]
    exact h.retired
  · rw [hf]
    exact h.nodup
  · rw [hl, hf]
    exact h.published

/-- Nothing happens to registrations and activations. -/
theorem unchanged (h : Stored s m) (hl : t.registrations.length = s.registrations.length)
    (hf : t.freed = s.freed) (ha : t.active = s.active) (hu : t.activations = s.activations) :
    Stored t m :=
  h.same hl hf ha fun o r hr => .inl (by rwa [Uses, hu] at hr)

/-- A registration is published. -/
theorem publishes {x : Registration} (h : Stored s (.publishing x)) :
    Stored { s with
      registrations := s.registrations ++ [x]
      active := some s.registrations.length } (.replacing s.registrations.length .segv) where
  active r hr := by
    obtain rfl := Option.some.inj hr
    refine ⟨by simp, fun hf => ?_⟩
    exact Nat.lt_irrefl _ (h.published _ hf)
  used o r hr := by
    obtain ⟨hl, hf⟩ := h.used o r hr
    exact ⟨by rw [List.length_append]; exact Nat.lt_add_right _ hl, hf⟩
  fits := rfl
  retired r hr := by
    rw [List.length_append, List.length_singleton, Nat.lt_succ_iff_lt_or_eq] at hr
    rcases hr with hr | rfl
    · rcases h.retired r hr with hf | ha | hm
      · exact .inl hf
      · rw [show s.active = none from h.fits] at ha
        cases ha
      · cases hm
    · exact .inr (.inl rfl)
  nodup := h.nodup
  published r hr := by
    rw [List.length_append]
    exact Nat.lt_add_right _ (h.published r hr)

/-- A registration is unpublished. -/
theorem withdraws {answer : Answer} (h : Stored s (.withdrawing r answer)) :
    Stored { s with active := none } (.restoring r .segv answer) where
  active := nofun
  used := h.used
  fits := ⟨rfl, h.active r h.fits⟩
  retired q hq := by
    rcases h.retired q hq with hf | ha | hm
    · exact .inl hf
    · rw [show s.active = some r from h.fits] at ha
      exact .inr (.inr ha)
    · cases hm
  nodup := h.nodup
  published := h.published

/-- A registration that nobody uses is freed. -/
theorem frees {answer : Answer} (h : Stored s (.freeing r answer)) :
    Stored { s with freed := r :: s.freed } (.unlocking answer) where
  active q hq := by
    rw [show s.active = none from h.fits.1] at hq
    cases hq
  used o q hq := by
    obtain ⟨hl, hf⟩ := h.used o q hq
    refine ⟨hl, fun hm => ?_⟩
    rcases List.mem_cons.mp hm with rfl | hm
    · exact h.fits.2.2 o hq
    · exact hf hm
  fits := trivial
  retired q hq := by
    rcases h.retired q hq with hf | ha | hm
    · exact .inl (List.mem_cons_of_mem _ hf)
    · exact .inr (.inl ha)
    · exact .inl (Option.some.inj hm ▸ List.mem_cons_self)
  nodup := List.nodup_cons.mpr ⟨h.fits.2.1.2, h.nodup⟩
  published q hq := by
    rcases List.mem_cons.mp hq with rfl | hq
    · exact h.fits.2.1.1
    · exact h.published q hq

end Stored

/-! ## One step -/

namespace Tended

/-- What an OS thread that is inside can rely on. -/
theorem ahead (ht : Tended s) (hp : s.managers.get o = m) (hi : m.IsInside) : Stored s m := by
  simpa only [inside, (ht.lock o).mpr (hp ▸ hi), hp] using ht.stored

/-- An OS thread that is inside goes on, and stays inside. -/
theorem manages (ht : Tended s) (hp : s.managers.get o = m) (hi : m.IsInside) (hi' : m'.IsInside)
    (hl : t.lock = s.lock) (hg : t.managers = s.managers) (ha : t.activations = s.activations)
    (hn : t.inFlight = s.inFlight) (hs : Stored t m') : Tended (t.moveTo o m') := by
  have hh := (ht.lock o).mpr (hp ▸ hi)
  refine ⟨fun x => ?_, ?_, ?_⟩
  · rw [get_moveTo, lock_moveTo, hl, hg]
    split
    · rename_i e
      rw [e]
      exact iff_of_true hh hi'
    · exact ht.lock x
  · rw [inFlight_moveTo, hn, ht.counted, State.counted, State.counted, activations_moveTo, ha]
  · have hm : (t.moveTo o m').inside = m' := by
      simp only [inside, lock_moveTo, hl, hh, get_moveTo, if_pos]
    rw [hm]
    exact hs.unchanged rfl rfl rfl rfl

/-- An OS thread waits for the mutex. -/
theorem asks (ht : Tended s) {answer : Option Answer} {j : Job}
    (hp : s.managers.get o = .out answer) : Tended (s.moveTo o (.locking j)) := by
  have hn : s.lock.holder ≠ some o := by rw [Ne, ht.lock, hp]; exact id
  refine ⟨fun x => ?_, ht.counted, ?_⟩
  · rw [get_moveTo, lock_moveTo]
    split
    · rename_i e
      exact iff_of_false (e ▸ hn) id
    · exact ht.lock x
  · have hm : (s.moveTo o (.locking j)).inside = s.inside := by
      cases hx : s.lock.holder with
      | none => simp only [inside, lock_moveTo, hx]
      | some x =>
        have he : x ≠ o := fun e => hn (by rw [hx, e])
        simp only [inside, lock_moveTo, hx, get_moveTo, if_neg he]
    rw [hm]
    exact ht.stored.unchanged rfl rfl rfl rfl

theorem locks (ht : Tended s) {j : Job} (hn : s.lock.holder = none) :
    Tended ({ s with lock := ⟨some o⟩ }.moveTo o (.checking j)) := by
  refine ⟨fun x => ?_, ht.counted, ?_⟩
  · have hx : ¬ (s.managers.get x).IsInside := by rw [← ht.lock x, hn]; nofun
    rw [get_moveTo]
    split
    · rename_i e
      exact iff_of_true (by simp [e]) trivial
    · rename_i e
      exact iff_of_false (by simpa using Ne.symm e) hx
  · have hs := ht.stored
    rw [inside, hn] at hs
    simp only [inside, lock_moveTo, get_moveTo, if_pos]
    have hs : Stored s (.checking j) := hs.next trivial nofun
    exact hs.unchanged rfl rfl rfl rfl

theorem unlocks (ht : Tended s) {answer : Answer} (hp : s.managers.get o = .unlocking answer)
    (hh : s.lock.holder = some o) :
    Tended ({ s with lock := .free }.moveTo o (.out (some answer))) := by
  refine ⟨fun x => ?_, ht.counted, ?_⟩
  · rw [get_moveTo]
    refine iff_of_false nofun ?_
    split
    · exact id
    · rename_i e
      exact fun hi => e (Option.some.inj (((ht.lock x).mpr hi).symm.trans hh))
  · have hs := ht.ahead hp trivial
    have hs : Stored s (.out none) := hs.next trivial nofun
    exact hs.unchanged rfl rfl rfl rfl

theorem moves (ht : Tended s) (hm : Moves s o l m) : Tended (s.moveTo o m) := by
  cases hm with
  | asks hp => exact ht.asks hp
  | @looks j hp =>
    have hs := ht.ahead hp trivial
    rcases decide_cases s j with ⟨x, ha, he⟩ | ⟨r, answer, ha, he⟩ | ⟨answer, he⟩ <;> rw [he]
    · exact ht.manages hp trivial trivial rfl rfl rfl rfl (hs.next ha nofun)
    · exact ht.manages hp trivial trivial rfl rfl rfl rfl (hs.next ha nofun)
    · exact ht.manages hp trivial trivial rfl rfl rfl rfl (hs.next trivial nofun)
  | refused hp =>
    have hs := ht.ahead hp trivial
    exact ht.manages hp trivial trivial rfl rfl rfl rfl (hs.next hs.fits nofun)
  | @skips r k answer hp | @unrestored r k answer was n hp =>
    have hs := ht.ahead hp trivial
    cases k <;>
      exact ht.manages hp trivial trivial rfl rfl rfl rfl (hs.next hs.fits fun _ => id)
  | drains hp hz =>
    have hs := ht.ahead hp trivial
    refine ht.manages hp trivial trivial rfl rfl rfl rfl (hs.next ?_ fun _ => id)
    exact ⟨hs.fits.1, hs.fits.2, fun _ => not_uses (ht.counted ▸ hz)⟩

theorem alters (ht : Tended s) (hm : Alters s o t m) : Tended (t.moveTo o m) := by
  cases hm with
  | locks hp hn => exact ht.locks hn
  | unlocks hp hh => exact ht.unlocks hp hh
  | publishes hp =>
    exact ht.manages hp trivial trivial rfl rfl rfl rfl (ht.ahead hp trivial).publishes
  | @replaces r k hp =>
    have hs := ht.ahead hp trivial
    have hs : Stored s (.recording r k (s.actions k)) := hs.next hs.fits nofun
    exact ht.manages hp trivial trivial rfl rfl rfl rfl (hs.unchanged rfl rfl rfl rfl)
  | @records r k was hp =>
    have hs := ht.ahead hp trivial
    have hs : Stored (s.record r k was) (.recording r k was) :=
      hs.unchanged (length_record ..) rfl rfl rfl
    cases k with
    | segv => exact ht.manages hp trivial trivial rfl rfl rfl rfl (hs.next hs.fits nofun)
    | bus => exact ht.manages hp trivial trivial rfl rfl rfl rfl (hs.next trivial nofun)
  | withdraws hp =>
    exact ht.manages hp trivial trivial rfl rfl rfl rfl (ht.ahead hp trivial).withdraws
  | @restores r k answer was hp =>
    have hs := ht.ahead hp trivial
    have hs : Stored (s.setAction k was) (.restoring r k answer) := hs.unchanged rfl rfl rfl rfl
    cases k <;>
      exact ht.manages hp trivial trivial rfl rfl rfl rfl (hs.next hs.fits fun _ => id)
  | frees hp => exact ht.manages hp trivial trivial rfl rfl rfl rfl (ht.ahead hp trivial).frees

/-- Nothing happens to jobs. Activations go on as they may, and the counter goes with them. -/
theorem handles (ht : Tended s) (hl : t.lock = s.lock) (hg : t.managers = s.managers)
    (hr : t.registrations = s.registrations) (hf : t.freed = s.freed) (ha : t.active = s.active)
    (hn : t.inFlight = t.counted)
    (hu : ∀ o r, t.Uses o r → s.Uses o r ∨ s.active = some r) : Tended t where
  lock := by rw [hl, hg]; exact ht.lock
  counted := hn
  stored := by
    rw [inside, hl, hg]
    exact ht.stored.same (by rw [hr]) hf ha hu

/-- Nothing happens to jobs and activations. -/
theorem unchanged (ht : Tended s) (hl : t.lock = s.lock) (hg : t.managers = s.managers)
    (hr : t.registrations = s.registrations) (hf : t.freed = s.freed) (ha : t.active = s.active)
    (hn : t.inFlight = s.inFlight) (hu : t.activations = s.activations) : Tended t :=
  ht.handles hl hg hr hf ha (by rw [hn, ht.counted, State.counted, State.counted, hu])
    fun o r h => .inl (by rwa [Uses, hu] at h)

/-- Whoever counts itself out was counted in. -/
theorem inFlight_pos (ht : Tended s) (ha : s.activations.get o = a :: rest)
    (hc : a.doing.isCounted = true) : 0 < s.inFlight := by
  rw [ht.counted]
  exact counted_pos (o := o) (ha ▸ List.mem_cons_self) hc

theorem goes (ht : Tended s) (ha : s.activations.get o = a :: rest) (h : Goes s o a t d) :
    Tended (t.goOn o a d) := by
  have hs := h.alike
  have hat : t.activations.get o = a :: rest := by rw [hs.activations, ha]
  refine ht.handles hs.lock hs.managers hs.registrations hs.freed hs.active ?_ fun x r hu => ?_
  · have hn := h.inFlight (ht.inFlight_pos ha)
    have hc := counted_goOn (d := d) hat
    have he : t.counted = s.counted := by rw [State.counted, State.counted, hs.activations]
    have := ht.counted
    rw [inFlight_goOn]
    omega
  · obtain ⟨b, hb, hr⟩ := hu
    rw [get_goOn, hat, hs.activations] at hb
    split at hb
    · rename_i e
      subst e
      rcases List.mem_cons.mp hb with rfl | hb
      · exact (h.uses hr).imp_left fun hr => ⟨a, ha ▸ List.mem_cons_self, hr⟩
      · exact .inl ⟨b, ha ▸ List.mem_cons_of_mem _ hb, hr⟩
    · exact .inl ⟨b, hb, hr⟩

theorem ends (ht : Tended s) (ha : s.activations.get o = a :: rest) (h : Ends s a t c e) :
    Tended (t.conclude o a c e) := by
  have hs := h.alike
  have hat : t.activations.get o = a :: rest := by rw [hs.activations, ha]
  refine ht.handles hs.lock hs.managers hs.registrations hs.freed hs.active ?_ fun x r hu => ?_
  · have hn := h.inFlight (ht.inFlight_pos ha)
    have hc := counted_conclude (c := c) (e := e) hat
    have he : t.counted = s.counted := by rw [State.counted, State.counted, hs.activations]
    have := ht.counted
    rw [inFlight_conclude]
    omega
  · obtain ⟨b, hb, hr⟩ := hu
    rw [get_conclude, hat, hs.activations] at hb
    split at hb
    · rename_i e
      subst e
      exact .inl ⟨b, ha ▸ List.mem_cons_of_mem _ hb, hr⟩
    · exact .inl ⟨b, hb, hr⟩

/-- A thread takes a fault. -/
theorem takes (ht : Tended s) (ha : a.doing = .entering) :
    Tended { s with activations := s.activations.modify o (a :: ·) } := by
  refine ht.handles rfl rfl rfl rfl rfl ?_ fun x r hu => .inl ?_
  · refine ht.counted.trans (Eq.symm (Row.total_set_same rfl ?_))
    rw [List.countP_cons, ha]
    rfl
  · obtain ⟨b, hb, hr⟩ := hu
    rw [Row.get_modify] at hb
    split at hb
    · rename_i e
      subst e
      rcases List.mem_cons.mp hb with rfl | hb
      · rw [ha] at hr
        cases hr
      · exact ⟨b, hb, hr⟩
    · exact ⟨b, hb, hr⟩

theorem step (ht : Tended s) (h : s.step l = some s') : Tended s' := by
  cases step_transition h with
  | moves hm => exact ht.moves hm
  | alters hm => exact ht.alters hm
  | goes ha hg => exact ht.goes ha hg
  | ends ha he => exact ht.ends ha he
  | takes => exact ht.takes rfl
  | avoids | stops | violates => exact ht.unchanged rfl rfl rfl rfl rfl rfl rfl

theorem start {actions : Kind → Disposition} {disk : Disk} {time : Snapshot.Time}
    {memory : Memory} : Tended (.start actions disk time memory) where
  lock o := by
    rw [State.start, Row.get_empty]
    exact iff_of_false nofun id
  counted := rfl
  stored := by
    refine ⟨nofun, fun o r ⟨a, ha, _⟩ => ?_, trivial, nofun, .nil, nofun⟩
    rw [State.start, Row.get_empty] at ha
    cases ha

end Tended

theorem State.Reachable.tended {actions : Kind → Disposition} {disk : Disk} {time : Snapshot.Time}
    {memory : Memory} (h : State.Reachable (.start actions disk time memory) s) : Tended s := by
  induction h with
  | refl => exact .start
  | step l _ hs ih => exact ih.step hs

end VmHost.Fault
