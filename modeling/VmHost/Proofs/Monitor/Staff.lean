import VmHost.Monitor.Handoff
import VmHost.Proofs.Monitor.Fifo
import VmHost.Proofs.Monitor.Ownership
import VmHost.Proofs.Monitor.World

/-!
# Producers and consumers at their places

The workers of a hand-over share one monitor. `Staffed` says of every reachable world that each of
them stands where its place says, and that whoever is in the monitor by its place is its owner. So at
most one worker looks at the slot or changes it, the slot is still empty when it is filled, and who
waits still has to (`Staffed.stalled`): whoever changes the slot empties the queue with the same step.

With this, `Act` lists what a step of a worker does.
-/
namespace VmHost.Monitor.Handoff

open State Point

/-! ## Places and points -/

/-- A worker has nothing to do any more. -/
def Role.Done : Role → Prop
  | .producer items => items = []
  | .consumer quota => quota = 0

/-- The slot is not as a worker needs it. -/
def Role.Stalls (slot : Option Nat) : Role → Prop
  | .producer [] | .consumer 0 => False
  | .producer (_ :: _) => slot.isSome
  | .consumer (_ + 1) => slot = none

/-- A point of a worker that enters the monitor, or that waits or notifies in it. No wait has been
interrupted. -/
def Works : Point → Prop
  | .rest r => r = some .done ∨ r = some (.bool false)
  | .entering m | .queueing m _ | .reaching m .. | .signalling m .. | .departing m .. => m = monitor
  | .yielding w | .clearing w | .parking w | .sleeping w _ | .waking w =>
    w.monitor = monitor ∧ w.saved = 1
  | .deciding w _ b | .reentering w _ b => w.monitor = monitor ∧ w.saved = 1 ∧ b = false
  | _ => False

/-- Where a worker can stand at a place. -/
def Place.Allows : Place → Point → Prop
  | .outside, p => p = .rest none
  | .looking, p => Works p
  | .filling, p => p = .rest (some .done) ∨ p = .rest (some (.bool false))
  | .gone, p => p = .rest none ∨ p = .leaving monitor ∨ p = .rest (some .done)

/-- A worker is in the monitor, by its place and point. -/
def Place.Within : Place → Point → Prop
  | .outside, _ | .gone, _ => False
  | .looking, .rest _ | .filling, .rest _ => True
  | .looking, p | .filling, p => p.tie = .inside monitor

/-- Everybody is where its place says. -/
structure Posted (w : World Table Worker) : Prop where
  calm : w.monitors.violation = none
  allowed : ∀ o, (w.own.get o).place.Allows (w.monitors.point o)
  within : ∀ o, (w.own.get o).place.Within (w.monitors.point o) ↔
    (w.monitors.monitors.get monitor).owner = some o
  depth : ∀ o, (w.monitors.monitors.get monitor).owner = some o →
    (w.monitors.monitors.get monitor).depth = 1
  undisturbed : ∀ j, (w.monitors.parks.get j).interrupted = false

/-- Everybody is where its place says, and the slot is as its place needs it. -/
structure Staffed (w : World Table Worker) : Prop extends Posted w where
  filling : ∀ o, (w.own.get o).place = .filling → w.shared.slot = none ∧
    ∃ item items, (w.own.get o).role = .producer (item :: items)
  /-- Who waits or is about to has found the slot in the wrong state, and it still is. -/
  stalled : ∀ o, (∃ m ms, w.monitors.point o = .queueing m ms) ∨
    o ∈ (w.monitors.monitors.get monitor).queue → (w.own.get o).role.Stalls w.shared.slot
  gone : ∀ o, (w.own.get o).place = .gone → (w.own.get o).role.Done

/-! ## What a step does -/

/-- What a step of a worker does. -/
inductive Act (w : World Table Worker) (o : OsThread) : World Table Worker → Prop
  | advances {m} : w.monitors.step (.advance o) = some m → Act w o ⟨m, w.shared, w.own⟩
  | arrives : (w.own.get o).place = .outside →
      (w.monitors.monitors.get monitor).owner ≠ some o →
      Act w o ⟨w.monitors.place o o (.entering monitor), w.shared,
        w.own.set o { w.own.get o with place := .looking }⟩
  | quits : (w.monitors.monitors.get monitor).owner = some o → (w.own.get o).role.Done →
      Act w o ⟨(w.monitors.onMonitor monitor ({ · with depth := 0, owner := none })).place o o
          (.leaving monitor), w.shared, w.own.set o { w.own.get o with place := .gone }⟩
  | waits : (w.own.get o).place = .looking →
      (w.monitors.monitors.get monitor).owner = some o → (w.own.get o).role.Stalls w.shared.slot →
      Act w o ⟨w.monitors.place o o (.queueing monitor 0), w.shared,
        w.own.set o (w.own.get o)⟩
  | prepares {r item items} : w.monitors.point o = .rest r →
      (r = some .done ∨ r = some (.bool false)) →
      (w.monitors.monitors.get monitor).owner = some o →
      (w.own.get o).role = .producer (item :: items) → w.shared.slot = none →
      Act w o ⟨w.monitors, w.shared, w.own.set o { w.own.get o with place := .filling }⟩
  | puts {item items} : (w.monitors.monitors.get monitor).owner = some o →
      (w.own.get o).role = .producer (item :: items) → w.shared.slot = none →
      Act w o ⟨(w.monitors.onMonitor monitor ({ · with queue := [] })).place o o
          (.tell monitor (w.monitors.monitors.get monitor).queue), w.shared.fill item,
        w.own.set o { w.own.get o with role := .producer items, place := .looking }⟩
  | takes {item quota} : (w.own.get o).place = .looking →
      (w.monitors.monitors.get monitor).owner = some o →
      (w.own.get o).role = .consumer (quota + 1) → w.shared.slot = some item →
      Act w o ⟨(w.monitors.onMonitor monitor ({ · with queue := [] })).place o o
          (.tell monitor (w.monitors.monitors.get monitor).queue), w.shared.clear item,
        w.own.set o
          { w.own.get o with role := .consumer quota, taken := item :: (w.own.get o).taken }⟩

variable {w v : World Table Worker} {o o' : OsThread} {s t : State}

theorem Table.note_eq {r : Option Reply} (h : r = some .done ∨ r = some (.bool false)) (t : Table) :
    t.note r = t := by
  rcases h with rfl | rfl <;> rfl

/-- The owner of a monitor notifies everybody. -/
theorem notifyAll_eq {m : MonitorId} {r : Option Reply} (hr : s.point o = .rest r)
    (ho : (s.monitors.get m).owner = some o) (hs : s.step (.call o o (.notifyAll m)) = some t) :
    t = (s.onMonitor m ({ · with queue := [] })).place o o (.tell m (s.monitors.get m).queue) := by
  cases hq : (s.monitors.get m).queue with
  | nil => exact (Transition.notifiesNobody hr (.all m []) ho hq).eq_of_step hs
  | cons i others =>
    exact (Transition.notifies hr (.all m (i :: others)) ho (by rw [hq, List.append_nil])).eq_of_step
      hs

/-- Who looks at the slot at rest, or has done so, owns the monitor. -/
theorem Staffed.owner_of_rest (h : Staffed w) {r : Option Reply}
    (hr : w.monitors.point o = .rest r)
    (hp : (w.own.get o).place = .looking ∨ (w.own.get o).place = .filling) :
    (w.monitors.monitors.get monitor).owner = some o := by
  refine (h.within o).mp ?_
  rcases hp with hp | hp <;> rw [hp, hr] <;> trivial

/-- What a worker can do when it looks at the slot. -/
theorem look_cases (t : Table) (x : Worker) :
    (x.role.Done ∧ look t x = .call (.release monitor) t { x with place := .gone }) ∨
    (x.role.Stalls t.slot ∧ look t x = .call (.wait monitor 0) t x) ∨
    (∃ item items, x.role = .producer (item :: items) ∧ t.slot = none ∧
      look t x = .change t { x with place := .filling }) ∨
    ∃ item quota, x.role = .consumer (quota + 1) ∧ t.slot = some item ∧
      look t x = .call (.notifyAll monitor) (t.clear item)
        { x with role := .consumer quota, taken := item :: x.taken } := by
  unfold look
  split
  case h_1 hr | h_2 hr => exact .inl ⟨by rw [hr]; rfl, rfl⟩
  case h_3 hr hs => exact .inr (.inr (.inl ⟨_, _, hr, hs, rfl⟩))
  case h_4 hr hs | h_5 hr hs => exact .inr (.inl ⟨by rw [hr, hs]; rfl, rfl⟩)
  case h_6 hr hs => exact .inr (.inr (.inr ⟨_, _, hr, hs, rfl⟩))

/-- A worker calls. -/
theorem Staffed.act_call (h : Staffed w) {r : Option Reply} {c : Call} {shared : Table}
    {own : Worker} {m : State} (hr : w.monitors.point o = .rest r)
    (hc : client w.shared (w.own.get o) r = .call c shared own)
    (hm : w.monitors.step (.call o o c) = some m) : Act w o ⟨m, shared, w.own.set o own⟩ := by
  have hp := h.allowed o
  cases hq : (w.own.get o).place with
  | outside =>
    have ho : (w.monitors.monitors.get monitor).owner ≠ some o := fun ho => by
      have := (h.within o).mpr ho
      rw [hq] at this
      exact this
    simp only [client, hq] at hc
    cases hc
    cases (Transition.begins hr (.acquire monitor ho)).eq_of_step hm
    exact .arrives hq ho
  | looking =>
    have ho := h.owner_of_rest hr (.inl hq)
    rw [hq, hr] at hp
    simp only [client, hq, Table.note_eq hp] at hc
    rcases look_cases w.shared (w.own.get o) with
      ⟨hd, e⟩ | ⟨hd, e⟩ | ⟨item, items, hrole, hs, e⟩ | ⟨item, quota, hrole, hs, e⟩ <;>
      rw [e] at hc <;> cases hc
    · cases (Transition.quits hr ho (h.depth o ho)).eq_of_step hm
      exact .quits ho hd
    · cases (Transition.begins hr (.wait monitor 0 ho)).eq_of_step hm
      exact .waits hq ho hd
    · cases notifyAll_eq hr ho hm
      exact .takes hq ho hrole hs
  | filling =>
    have ho := h.owner_of_rest hr (.inr hq)
    obtain ⟨he, item, items, hrole⟩ := h.filling o hq
    simp only [client, hq, hrole] at hc
    cases hc
    cases notifyAll_eq hr ho hm
    exact .puts ho hrole he
  | gone => simp [client, hq] at hc

/-- A worker changes its mind without a call: it has found an empty slot to fill. -/
theorem Staffed.act_change (h : Staffed w) {r : Option Reply} {shared : Table} {own : Worker}
    (hr : w.monitors.point o = .rest r)
    (hc : client w.shared (w.own.get o) r = .change shared own) :
    Act w o ⟨w.monitors, shared, w.own.set o own⟩ := by
  have hp := h.allowed o
  cases hq : (w.own.get o).place with
  | looking =>
    rw [hq, hr] at hp
    simp only [client, hq, Table.note_eq hp] at hc
    rcases look_cases w.shared (w.own.get o) with
      ⟨hd, e⟩ | ⟨hd, e⟩ | ⟨item, items, hrole, hs, e⟩ | ⟨item, quota, hrole, hs, e⟩ <;>
      rw [e] at hc <;> cases hc
    exact .prepares hr hp (h.owner_of_rest hr (.inl hq)) hrole hs
  | filling =>
    obtain ⟨-, item, items, hrole⟩ := h.filling o hq
    simp [client, hq, hrole] at hc
  | outside | gone => simp [client, hq] at hc

theorem Staffed.act (h : Staffed w) (hs : w.step client o = some v) : Act w o v := by
  cases World.step_iff.mp hs with
  | calls hr hc hm => exact h.act_call hr hc hm
  | changes hr _ hc => exact h.act_change hr hc
  | advances hm => exact .advances hm

/-! ## Everybody stays where its place says -/

namespace Posted

/-- A step of one worker leaves the others at their places, if the monitor is right for it. -/
theorem keep (h : Posted w) (hv : v.monitors.violation = none)
    (ho : ∀ o', o' ≠ o → v.monitors.point o' = w.monitors.point o' ∧ v.own.get o' = w.own.get o' ∧
      ((v.monitors.monitors.get monitor).owner = some o' ↔
        (w.monitors.monitors.get monitor).owner = some o'))
    (ha : (v.own.get o).place.Allows (v.monitors.point o))
    (hi : (v.own.get o).place.Within (v.monitors.point o) ↔
      (v.monitors.monitors.get monitor).owner = some o)
    (hd : ∀ o', (v.monitors.monitors.get monitor).owner = some o' →
      (v.monitors.monitors.get monitor).depth = 1)
    (hu : ∀ j, (v.monitors.parks.get j).interrupted = false) : Posted v where
  calm := hv
  allowed o' := by
    by_cases e : o' = o
    · rw [e]
      exact ha
    · rw [(ho o' e).1, (ho o' e).2.1]
      exact h.allowed o'
  within o' := by
    by_cases e : o' = o
    · rw [e]
      exact hi
    · rw [(ho o' e).1, (ho o' e).2.1, (ho o' e).2.2]
      exact h.within o'
  depth := hd
  undisturbed := hu

section

variable {u : State} {p q : Point} {r : Option Reply} {shared : Table} {row : Row Worker}
  {own : Worker} {j : Identity}

/-- The state `u` stands for the monitors with changes to monitors and park cells; then a worker
moves. -/
theorem move (h : Posted w) (hv : u.violation = none) (ht : u.threads = w.monitors.threads)
    (hr : ∀ o', row.get o' = if o' = o then own else w.own.get o') (ha : own.place.Allows p)
    (hi : own.place.Within p ↔ (u.monitors.get monitor).owner = some o)
    (ho : ∀ o', o' ≠ o → ((u.monitors.get monitor).owner = some o' ↔
      (w.monitors.monitors.get monitor).owner = some o'))
    (hd : ∀ o', (u.monitors.get monitor).owner = some o' → (u.monitors.get monitor).depth = 1)
    (hu : ∀ j, (u.parks.get j).interrupted = false) : Posted ⟨u.place o j p, shared, row⟩ := by
  refine h.keep (o := o) hv (fun o' e => ⟨?_, by rw [hr, if_neg e], ho o' e⟩) ?_ ?_ hd hu
  · rw [point_place, if_neg e, (standing_of_threads ht o').1]
  · rw [point_place, if_pos rfl, hr, if_pos rfl]
    exact ha
  · rw [point_place, if_pos rfl, hr, if_pos rfl]
    exact hi

theorem get_own (own : Row Worker) (o' : OsThread) :
    own.get o' = if o' = o then own.get o else own.get o' := by
  split
  · rename_i e
    rw [e]
  · rfl

/-- A worker goes on in an operation and leaves the owner as it is. -/
theorem go (h : Posted w) {x : Place} (hl : (w.own.get o).place = x) (hq : w.monitors.point o = q)
    (ha : x.Allows p) (hi : x.Within p ↔ x.Within q) (hv : u.violation = w.monitors.violation)
    (ht : u.threads = w.monitors.threads)
    (ho : (u.monitors.get monitor).owner = (w.monitors.monitors.get monitor).owner)
    (hd : (u.monitors.get monitor).depth = (w.monitors.monitors.get monitor).depth)
    (hu : ∀ j, (u.parks.get j).interrupted = false) : Posted ⟨u.place o j p, w.shared, w.own⟩ := by
  refine h.move (hv.trans h.calm) ht (get_own w.own) ?_ ?_ (fun _ _ => by rw [ho]) ?_ hu
  · rw [hl]
    exact ha
  · rw [ho, ← h.within o, hl, hi, hq]
  · rw [ho, hd]
    exact h.depth

/-- A worker comes into the monitor, which nobody owns. -/
theorem enter (h : Posted w) (hl : (w.own.get o).place = .looking)
    (hn : (w.monitors.monitors.get monitor).owner = none) (hw : Works (.rest r))
    (hv : u.violation = none) (ht : u.threads = w.monitors.threads)
    (ho : (u.monitors.get monitor).owner = some o) (hd : (u.monitors.get monitor).depth = 1)
    (hu : ∀ j, (u.parks.get j).interrupted = false) :
    Posted ⟨u.place o j (.rest r), w.shared, w.own⟩ := by
  refine h.move hv ht (get_own w.own) ?_ ?_ (fun o' e => ?_) (fun _ _ => hd) hu
  · rw [hl]
    exact hw
  · rw [hl, ho]
    exact ⟨fun _ => rfl, fun _ => trivial⟩
  · rw [ho, hn]
    simp [Ne.symm e]

/-- A worker gives the monitor up. -/
theorem exit (h : Posted w) (hi : (w.monitors.monitors.get monitor).owner = some o)
    (hr : ∀ o', row.get o' = if o' = o then own else w.own.get o')
    (ha : own.place.Allows p) (hw : ¬ own.place.Within p) (hv : u.violation = none)
    (ht : u.threads = w.monitors.threads) (ho : (u.monitors.get monitor).owner = none)
    (hu : ∀ j, (u.parks.get j).interrupted = false) : Posted ⟨u.place o j p, shared, row⟩ := by
  refine h.move hv ht hr ha ?_ (fun o' e => ?_) ?_ hu
  · rw [ho]
    simp [hw]
  · rw [ho, hi]
    simp [Ne.symm e]
  · rw [ho]
    simp

/-- The owner does something in the monitor. -/
theorem act (h : Posted w) (hi : (w.monitors.monitors.get monitor).owner = some o)
    (hr : ∀ o', row.get o' = if o' = o then own else w.own.get o')
    (ha : own.place.Allows p) (hw : own.place.Within p) (hv : u.violation = w.monitors.violation)
    (ht : u.threads = w.monitors.threads)
    (ho : (u.monitors.get monitor).owner = (w.monitors.monitors.get monitor).owner)
    (hd : (u.monitors.get monitor).depth = (w.monitors.monitors.get monitor).depth)
    (hu : u.parks = w.monitors.parks) : Posted ⟨u.place o j p, shared, row⟩ := by
  refine h.move (hv.trans h.calm) ht hr ha ?_ (fun _ _ => by rw [ho]) ?_ (hu ▸ h.undisturbed)
  · rw [ho, hi]
    exact ⟨fun _ => rfl, fun _ => hw⟩
  · rw [ho, hd]
    exact h.depth

end

/-- Only a worker that looks or has just left is in the middle of an operation. -/
theorem looking_or (h : Posted w) (hr : ∀ r, w.monitors.point o ≠ .rest r) :
    (w.own.get o).place = .looking ∧ Works (w.monitors.point o) ∨
      (w.own.get o).place = .gone ∧ w.monitors.point o = .leaving monitor := by
  have ha := h.allowed o
  cases hq : (w.own.get o).place <;> rw [hq] at ha
  case looking => exact .inl ⟨rfl, ha⟩
  case gone => exact .inr ⟨rfl, (ha.resolve_left (hr _)).resolve_right (hr _)⟩
  case outside => exact absurd ha (hr _)
  case filling => exact (ha.elim (hr _) (hr _)).elim

theorem advance (h : Posted w) (hh : Held id w.monitors)
    (hs : w.monitors.step (.advance o) = some t) : Posted ⟨t, w.shared, w.own⟩ := by
  have hb := h.looking_or (busy_of_advance hs).1
  have hk : ∀ {i j} {f : Park → Park}, (∀ p, (f p).interrupted = p.interrupted) →
      ((w.monitors.onPark i f).parks.get j).interrupted = false := fun hf =>
    (w.monitors.onPark_same Park.interrupted hf).trans (h.undisturbed _)
  cases step_transition hs with
  | crashes hc =>
    obtain ⟨i, j, e, hn⟩ := (hh.crashes hc).2
    exact absurd e hn
  | clears hp | parks hp | decides hp | signals hp | delivers hp | flags hp =>
    rw [hp] at hb
    obtain ⟨hl, hw⟩ := hb.resolve_right (by simp)
    exact h.go hl hp hw Iff.rfl rfl rfl rfl rfl fun j => hk fun _ => rfl
  | delivered hp =>
    rw [hp] at hb
    obtain ⟨hl, hw⟩ := hb.resolve_right (by simp)
    refine h.go hl hp (.inl rfl) ?_ rfl rfl rfl rfl fun j => hk fun _ => rfl
    rw [show _ = monitor from hw]
    simp [Place.Within, tie]
  | wakes hp hl =>
    cases Option.some.inj (wakes_actor hl)
    rw [hp] at hb
    obtain ⟨hl, hw⟩ := hb.resolve_right (by simp)
    exact h.go hl hp hw Iff.rfl rfl rfl rfl rfl h.undisturbed
  | yields hp =>
    rw [hp] at hb
    obtain ⟨hl, hw⟩ := hb.resolve_right (by simp)
    refine h.go hl hp hw ?_ rfl rfl (w.monitors.onMonitor_same Monitor.owner fun _ => rfl)
      (w.monitors.onMonitor_same Monitor.depth fun _ => rfl) h.undisturbed
    simp [Place.Within, tie]
  | collects hp =>
    rw [hp] at hb
    obtain ⟨hl, hw⟩ := hb.resolve_right (by simp)
    refine h.go hl hp ⟨hw.1, hw.2, h.undisturbed _⟩ Iff.rfl rfl rfl rfl rfl fun j => ?_
    rw [get_onPark]
    split
    · rfl
    · exact h.undisturbed j
  | enters hp hn =>
    rcases hp with ⟨hp, rfl⟩ | ⟨hp, -⟩ <;> rw [hp] at hb <;>
      obtain ⟨hl, hm⟩ := hb.resolve_right (by simp)
    · cases hm
      have hw : w.monitors.who o = o := hh.home_who o (by simp [hp, tie])
      exact h.enter hl (hh.owner_of_free hn) (.inl rfl) h.calm rfl (by simp [hw]) (by simp)
        h.undisturbed
    · exact hm.elim
  | returns hp hn =>
    have hw : w.monitors.who o = o := hh.home_who o (by simp [hp, tie])
    rw [hp] at hb
    obtain ⟨hl, hm, hd, rfl⟩ := hb.resolve_right (by simp)
    rw [hm] at hn ⊢
    exact h.enter hl (hh.owner_of_free hn) (.inr rfl) h.calm rfl (by simp [hw]) (by simp [hd])
      h.undisturbed
  | queues hp =>
    have hw : w.monitors.who o = o := hh.home_who o (by simp [hp, tie])
    rw [hp] at hb
    obtain ⟨hl, hm⟩ := hb.resolve_right (by simp)
    cases hm
    have ho := hh.inside (o := o) (m := monitor) (by rw [hp]; rfl)
    rw [hw] at ho
    refine h.exit ho (get_own w.own) ?_ ?_ h.calm rfl (by simp) fun j => hk fun _ => rfl
    · rw [hl]
      exact ⟨rfl, h.depth o ho⟩
    · rw [hl]
      simp [Place.Within, tie]
  | leaves hp =>
    rw [hp] at hb
    obtain ⟨hg, -⟩ := hb.resolve_left fun hb => hb.2
    exact h.go hg hp (.inr (.inr rfl)) Iff.rfl rfl rfl
      (w.monitors.onMonitor_same Monitor.owner fun _ => rfl)
      (w.monitors.onMonitor_same Monitor.depth fun _ => rfl) h.undisturbed
  | declines _ _ hi =>
    rw [h.undisturbed] at hi
    cases hi
  | misses hp | declined hp | posts hp | rouses hp | posted hp | asks hp | answers hp =>
    rw [hp] at hb
    exact (hb.resolve_right (by simp)).2.elim

theorem works_tell (q : List Identity) : Works (.tell monitor q) := by
  cases q
  · exact .inl rfl
  · rfl

theorem within_tell (q : List Identity) : Place.looking.Within (.tell monitor q) := by
  cases q
  · trivial
  · rfl

theorem step (h : Posted w) (hh : Held id w.monitors) (ha : Act w o v) : Posted v := by
  cases ha with
  | advances hs => exact h.advance hh hs
  | arrives hp ho =>
    refine h.move h.calm rfl (Row.get_set w.own o · _) rfl ?_ (fun _ _ => Iff.rfl) h.depth
      h.undisturbed
    simp [Place.Within, tie, ho]
  | quits ho =>
    exact h.exit ho (Row.get_set w.own o · _) (.inr (.inl rfl)) id h.calm rfl (by simp)
      h.undisturbed
  | waits hp ho =>
    refine h.act ho (Row.get_set w.own o · _) ?_ ?_ rfl rfl rfl rfl rfl <;> rw [hp] <;> rfl
  | puts ho =>
    exact h.act ho (Row.get_set w.own o · _) (works_tell _) (within_tell _) rfl rfl
      (w.monitors.onMonitor_same Monitor.owner fun _ => rfl)
      (w.monitors.onMonitor_same Monitor.depth fun _ => rfl) rfl
  | takes hp ho =>
    refine h.act ho (Row.get_set w.own o · _) ?_ ?_ rfl rfl
      (w.monitors.onMonitor_same Monitor.owner fun _ => rfl)
      (w.monitors.onMonitor_same Monitor.depth fun _ => rfl) rfl <;> rw [hp]
    · exact works_tell _
    · exact within_tell _
  | prepares hr hp ho =>
    refine h.keep (o := o) h.calm (fun o' e => ⟨rfl, ?_, Iff.rfl⟩) ?_ ?_ h.depth h.undisturbed
    · simp [Row.get_set, e]
    · rw [Row.get_set, if_pos rfl, hr]
      exact hp.imp (by rintro rfl; rfl) (by rintro rfl; rfl)
    · rw [Row.get_set, if_pos rfl, hr]
      exact ⟨fun _ => ho, fun _ => trivial⟩

end Posted

/-! ## The slot stays as everybody's place needs it -/

/-- Whoever is in the monitor is there alone. -/
theorem Posted.alone (h : Posted w) (ho : (w.monitors.monitors.get monitor).owner = some o)
    (hw : (w.own.get o').place.Within (w.monitors.point o')) : o' = o := by
  have := (h.within o').mp hw
  rw [ho, Option.some.injEq] at this
  exact this.symm

theorem Posted.within_of_filling (h : Posted w) (hp : (w.own.get o).place = .filling) :
    (w.own.get o).place.Within (w.monitors.point o) := by
  have ha := h.allowed o
  rw [hp] at ha ⊢
  rcases ha with ha | ha <;> rw [ha] <;> trivial

theorem Posted.within_of_queueing (h : Posted w) {m : MonitorId} {ms : Nat}
    (hp : w.monitors.point o = .queueing m ms) :
    (w.own.get o).place.Within (w.monitors.point o) := by
  obtain ⟨hl, hw⟩ := (h.looking_or (o := o) (by simp [hp])).resolve_right (by simp [hp])
  rw [hp] at hw ⊢
  rw [hl]
  cases hw
  rfl

/-- Nobody is about to queue itself but with a call. -/
theorem queueing_of_advance {m : MonitorId} {ms : Nat} (ht : Transition s (.advance o) t)
    (hp : t.point o' = .queueing m ms) : s.point o' = .queueing m ms := by
  by_cases e : o' = o
  · subst e
    cases ht with
    | crashes => exact hp
    | wakes _ hl =>
      cases Option.some.inj (wakes_actor hl)
      simp at hp
    | posts _ _ hq =>
      subst hq
      rw [point_place, if_pos rfl] at hp
      split at hp <;> cases hp
    | _ => simp at hp
  · rw [← (ht.standing_other (o := o') fun h => e (Option.some.inj h).symm).1]
    exact hp

theorem tell_ne_queueing {k m : MonitorId} {q : List Identity} {ms : Nat} :
    tell k q ≠ .queueing m ms := by
  cases q <;> nofun

/-- Who is new in a queue has just queued itself. -/
theorem queue_of_advance {i : Identity} {m : MonitorId} (ht : Transition s (.advance o) t)
    (hi : i ∈ (t.monitors.get m).queue) : i ∈ (s.monitors.get m).queue ∨
      (∃ ms, s.point o = .queueing m ms) ∧ i = s.who o := by
  cases ht with
  | @queues _ k ms hp =>
    by_cases e : m = k
    · subst e
      simp only [monitors_place, get_onMonitor, if_true, List.mem_append, List.mem_singleton] at hi
      exact hi.imp_right fun hi => ⟨⟨ms, hp⟩, hi⟩
    · exact .inl (by simpa [e] using hi)
  | @returns _ w n b =>
    refine .inl ?_
    by_cases e : m = w.monitor
    · subst e
      simp only [monitors_place, get_onMonitor, if_true] at hi
      cases n
      · exact List.mem_of_mem_erase hi
      · exact hi
    · simpa [e] using hi
  | enters | leaves | yields => exact .inl (by grind)
  | _ => exact .inl hi

namespace Act

/-- A step of one worker does not move another one. -/
theorem own_other (ha : Act w o v) (e : o' ≠ o) : v.own.get o' = w.own.get o' := by
  cases ha with
  | advances => rfl
  | arrives | quits | waits | prepares | puts | takes => rw [Row.get_set, if_neg e]

theorem point_other (ha : Act w o v) (e : o' ≠ o) :
    v.monitors.point o' = w.monitors.point o' := by
  cases ha with
  | advances hs =>
    exact ((step_transition hs).standing_other fun h => e (Option.some.inj h).symm).1
  | arrives | quits | waits | puts | takes => rw [point_place, if_neg e] <;> rfl
  | prepares => rfl

/-- Whoever changes the slot owns the monitor and empties the queue. -/
theorem shared_or (ha : Act w o v) : v.shared = w.shared ∨
    (w.monitors.monitors.get monitor).owner = some o ∧
      (v.monitors.monitors.get monitor).queue = [] := by
  cases ha with
  | advances | arrives | quits | waits | prepares => exact .inl rfl
  | puts ho | takes _ ho => exact .inr ⟨ho, by simp⟩

/-- Who is new in the queue has just queued itself. -/
theorem queue_or (ha : Act w o v) (hh : Held id w.monitors)
    (hi : o' ∈ (v.monitors.monitors.get monitor).queue) :
    o' ∈ (w.monitors.monitors.get monitor).queue ∨
      o' = o ∧ ∃ m ms, w.monitors.point o = .queueing m ms := by
  cases ha with
  | advances hs =>
    refine (queue_of_advance (step_transition hs) hi).imp_right ?_
    rintro ⟨⟨ms, hq⟩, rfl⟩
    exact ⟨hh.home_who o (by simp [hq, tie]), _, ms, hq⟩
  | arrives | waits | prepares => exact .inl hi
  | quits => exact .inl (by simpa using hi)
  | puts | takes => simp at hi

end Act

namespace Staffed

theorem step_filling (h : Staffed w) (ha : Act w o v) (hp : (v.own.get o').place = .filling) :
    v.shared.slot = none ∧ ∃ item items, (v.own.get o').role = .producer (item :: items) := by
  by_cases e : o' = o
  · subst e
    cases ha with
    | advances => exact h.filling o' hp
    | waits =>
      rw [Row.get_set, if_pos rfl] at hp ⊢
      exact h.filling o' hp
    | prepares _ _ _ hr hs =>
      rw [Row.get_set, if_pos rfl]
      exact ⟨hs, _, _, hr⟩
    | takes hl =>
      rw [Row.get_set, if_pos rfl] at hp
      exact nomatch hl.symm.trans hp
    | arrives | quits | puts =>
      rw [Row.get_set, if_pos rfl] at hp
      cases hp
  · rw [ha.own_other e] at hp ⊢
    rcases ha.shared_or with hs | ⟨ho, -⟩
    · rw [hs]
      exact h.filling o' hp
    · exact absurd (h.alone ho (h.within_of_filling hp)) e

theorem step_gone (h : Staffed w) (ha : Act w o v) (hp : (v.own.get o').place = .gone) :
    (v.own.get o').role.Done := by
  by_cases e : o' = o
  · subst e
    cases ha with
    | advances => exact h.gone o' hp
    | waits =>
      rw [Row.get_set, if_pos rfl] at hp ⊢
      exact h.gone o' hp
    | quits _ hd =>
      rw [Row.get_set, if_pos rfl]
      exact hd
    | takes hl =>
      rw [Row.get_set, if_pos rfl] at hp
      exact nomatch hl.symm.trans hp
    | arrives | prepares | puts =>
      rw [Row.get_set, if_pos rfl] at hp
      cases hp
  · rw [ha.own_other e] at hp ⊢
    exact h.gone o' hp

theorem step_stalled (h : Staffed w) (hh : Held id w.monitors) (ha : Act w o v)
    (hp : (∃ m ms, v.monitors.point o' = .queueing m ms) ∨
      o' ∈ (v.monitors.monitors.get monitor).queue) :
    (v.own.get o').role.Stalls v.shared.slot := by
  have hw : ((∃ m ms, w.monitors.point o' = .queueing m ms) ∨
      o' ∈ (v.monitors.monitors.get monitor).queue) →
      (w.own.get o').role.Stalls w.shared.slot := by
    rintro (hq | hi)
    · exact h.stalled o' (.inl hq)
    · rcases ha.queue_or hh hi with hi | ⟨rfl, hq⟩
      · exact h.stalled o' (.inr hi)
      · exact h.stalled o' (.inl hq)
  by_cases e : o' = o
  · subst e
    cases ha with
    | advances hs =>
      refine hw (hp.imp_left ?_)
      rintro ⟨m, ms, hq⟩
      exact ⟨m, ms, queueing_of_advance (step_transition hs) hq⟩
    | arrives | quits =>
      rw [Row.get_set, if_pos rfl]
      exact hw (.inr (hp.resolve_left (by simp)))
    | waits _ _ hd =>
      rw [Row.get_set, if_pos rfl]
      exact hd
    | prepares =>
      rw [Row.get_set, if_pos rfl]
      exact hw hp
    | puts | takes =>
      exfalso
      rcases hp with ⟨m, ms, hq⟩ | hi
      · exact tell_ne_queueing (by simpa using hq)
      · simp at hi
  · -- Nobody else is about to queue itself while the slot is changed, and nobody stays in the queue.
    rw [ha.own_other e]
    rw [ha.point_other e] at hp
    rcases ha.shared_or with hs | ⟨ho, hn⟩
    · rw [hs]
      exact hw hp
    · rcases hp with ⟨m, ms, hq⟩ | hi
      · exact absurd (h.alone ho (h.within_of_queueing hq)) e
      · rw [hn] at hi
        cases hi

theorem step (h : Staffed w) (hh : Held id w.monitors) (ha : Act w o v) : Staffed v where
  toPosted := h.toPosted.step hh ha
  filling _ := h.step_filling ha
  stalled _ := h.step_stalled hh ha
  gone _ := h.step_gone ha

end Staffed

/-! ## In every world -/

/-- A worker before its first step; behind the last one there are workers that are gone. -/
theorem get_start (roles : List Role) (o : OsThread) :
    (start roles).own.get o = (roles[o]?.map fun r => ⟨r, .outside, []⟩).getD default := by
  simp [start, World.start, Row.ofList, Row.get, List.getD_eq_getElem?_getD]

theorem staffed_start (roles : List Role) : Staffed (start roles) := by
  have hp : ∀ o, (start roles).monitors.point o = .rest none := point_start
  have ho : (start roles).monitors.monitors.get monitor = .free := monitors_start monitor
  have hw : ∀ o, (start roles).own.get o = default ∨
      ∃ r, (start roles).own.get o = ⟨r, .outside, []⟩ := fun o => by
    rw [get_start]
    cases roles[o]? with
    | none => exact .inl rfl
    | some r => exact .inr ⟨r, rfl⟩
  refine ⟨⟨rfl, fun o => ?_, fun o => ?_, fun o h => ?_, fun j => ?_⟩, fun o h => ?_, fun o h => ?_,
    fun o h => ?_⟩
  · rw [hp]
    rcases hw o with e | ⟨r, e⟩ <;> rw [e]
    · exact .inl rfl
    · exact rfl
  · rw [hp, ho]
    rcases hw o with e | ⟨r, e⟩ <;> rw [e] <;> exact ⟨False.elim, nofun⟩
  · rw [ho] at h
    cases h
  · exact congrArg Park.interrupted (parks_start j)
  · rcases hw o with e | ⟨r, e⟩ <;> rw [e] at h <;> cases h
  · rw [hp, ho] at h
    rcases h with ⟨_, _, ⟨⟩⟩ | ⟨⟨⟩⟩
  · rcases hw o with e | ⟨r, e⟩ <;> rw [e] at h ⊢
    · rfl
    · cases h

theorem staffed_of_history {roles : List Role} {past : List Moment}
    (h : World.History client (start roles) past w) : Staffed w := by
  induction h with
  | start => exact staffed_start roles
  | step o hw hs ih => exact ih.step (hw.run rfl).held (ih.act hs)

end VmHost.Monitor.Handoff
