import Mathlib.Logic.Relation
import VmHost.Proofs.Monitor.Blocking

/-!
# Park cells take no part in a deadlock

Monitors nest as their callers like, so OS threads may lock each other out of monitors. With park
cells that cannot happen: whoever holds one needs nothing from anybody until it has released it.

`State.Awaits` is the relation "cannot go on because of a mutex that another OS thread holds". An OS
thread that holds a park cell awaits nothing, so that no circle of waiting OS threads goes through a
park cell (`State.Celled.not_circular`). Where nobody can go on, only the mutexes of monitors and
events that nobody signals are left to wait for (`Run.untangled`).
-/
namespace VmHost.Monitor

open State Point

/-- A mutex: that of a monitor, or that of a park cell. -/
inductive Lock
  | monitor (m : MonitorId)
  | cell (j : Identity)

/-- An OS thread cannot go on because another one holds the mutex that it is about to take. -/
inductive State.Awaits (s : State) (o : OsThread) : Lock → OsThread → Prop
  | monitor (m : MonitorId) (h : OsThread) : (s.point o).seek = some m →
    (s.monitors.get m).lock.holder = some h → h ≠ o → Awaits s o (.monitor m) h
  | cell (j : Identity) (h : OsThread) : (s.point o).reach (s.who o) = some j →
    (s.parks.get j).lock.holder = some h → h ≠ o → Awaits s o (.cell j) h

/-- An OS thread awaits another one, whichever mutex it is for. -/
def State.WaitsFor (s : State) (o h : OsThread) : Prop := ∃ k, s.Awaits o k h

/-- No OS thread goes on without a new call, however much time passes. -/
def State.Still (s : State) : Prop :=
  s.Stuck ∧ ∀ o ms t, (s.elapse ms).step (.giveUp o) ≠ some t

/-- The OS thread is in the middle of an operation. -/
def Point.IsInside : Point → Prop
  | .rest _ | .overflowed => False
  | _ => True

/-- Park cells take no part in a deadlock. -/
structure Untangled (s : State) : Prop where
  /-- A park cell is held by its own thread inside a wait, by who delivers a notification to that
  thread, or by who interrupts or asks it; the point says which. -/
  held : ∀ o j, (s.parks.get j).lock.holder = some o ↔ (s.point o).cell (s.who o) = some j
  one : ∀ o j k, (s.parks.get j).lock.holder = some o → (s.parks.get k).lock.holder = some o → j = k
  free : ∀ o j, (s.parks.get j).lock.holder = some o → ¬ s.Blocked o
  /-- As long as nothing is violated, who holds a park cell can take its next step, and violates
  nothing with it. -/
  goes : ∀ o j, s.violation = none → (s.parks.get j).lock.holder = some o →
    ∃ t, s.step (.advance o) = some t ∧ t.violation = none
  /-- No circle of OS threads that await each other goes through a park cell. -/
  acyclic : ∀ o j h, s.Awaits o (.cell j) h → ¬ Relation.ReflTransGen s.WaitsFor h o
  /-- Where nobody can go on, whoever is in the middle of an operation awaits another OS thread at a
  monitor, or sleeps without a time limit on an event that is not signaled. -/
  still : s.violation = none → s.Still → ∀ o, (s.point o).IsInside →
    (∃ m h, s.Awaits o (.monitor m) h) ∨ ∃ w since, s.point o = .sleeping w since ∧
      w.ms = 0 ∧ (s.parks.get (s.who o)).signaled = false

variable {home : Identity → OsThread} {s t : State} {o h : OsThread} {j : Identity} {k : Lock}
  {past : List Moment}

theorem State.Awaits.blocked (ha : s.Awaits o k h) : s.Blocked o := by
  cases ha with
  | monitor m _ hs hh hn => exact .monitor m h hs hh hn
  | cell j _ hr hh hn => exact .cell j h hr hh hn

/-- An OS thread that holds a park cell has no reason to wait. -/
theorem State.Celled.not_blocked (hc : s.Celled) (hh : (s.parks.get j).lock.holder = some o) :
    ¬ s.Blocked o := by
  intro hb
  have hj := (hc o j).mp hh
  rw [hb.holds_nothing.1] at hj
  cases hj

theorem State.Celled.not_circular (hc : s.Celled) (ha : s.Awaits o (.cell j) h) :
    ¬ Relation.ReflTransGen s.WaitsFor h o := by
  cases ha with
  | cell _ _ hr hh hn =>
    intro hp
    rcases hp.cases_head with rfl | ⟨x, ⟨k, hx⟩, -⟩
    · exact hn rfl
    · exact hc.not_blocked hh hx.blocked

/-- A step in the middle of an operation breaks no rule but one about mutexes. -/
theorem Transition.violation_of_advance (ht : Transition s (.advance o) t)
    (hc : ∀ v, ¬ Crashes s o v) : t.violation = s.violation := by
  cases ht with
  | crashes h => exact absurd h (hc _)
  | _ => rfl

/-- Who holds a park cell asks for no monitor. -/
theorem Point.seek_of_cell {i : Identity} {p : Point} (h : p.cell i = some j) : p.seek = none := by
  cases p <;> first | rfl | cases h

theorem Held.goes (h : Held home s) (hv : s.violation = none)
    (hh : (s.parks.get j).lock.holder = some o) :
    ∃ t, s.step (.advance o) = some t ∧ t.violation = none := by
  obtain ⟨t, ht⟩ := (advances_or_blocked hv o).resolve_right (State.Celled.not_blocked h.cell hh)
  have hs := seek_of_cell ((h.cell o j).mp hh)
  exact ⟨t, ht, ((step_transition ht).violation_of_advance fun _ => h.not_crashes hs).trans hv⟩

/-- A sleep with a time limit ends some time. -/
theorem State.Still.untimed (hs : s.Still) (hv : s.violation = none) {w : Waiting} {since : Nat}
    (hp : s.point o = .sleeping w since) : w.ms = 0 := by
  refine Decidable.byContradiction fun hm => ?_
  have ht : Transition (s.elapse (since + w.ms)) (.giveUp o) _ :=
    .wakes hp (.inr ⟨rfl, hm, Nat.le_add_left ..⟩)
  exact hs.2 o _ _ (ht.step hv)

theorem State.still_of_blocked (hb : ∀ o, s.Blocked o)
    (hm : ∀ o w since, s.point o = .sleeping w since → w.ms = 0) : s.Still := by
  refine ⟨fun o t => (hb o).no_step t, fun o ms t ht => ?_⟩
  cases step_transition ht with
  | wakes hp hl =>
    obtain ⟨he, hn, -⟩ := hl.resolve_left (by simp)
    cases he
    exact hn (hm o _ _ hp)

theorem State.Celled.awaits_or_asleep (hc : s.Celled) (hv : s.violation = none) (hs : s.Still)
    (hi : (s.point o).IsInside) : (∃ m h, s.Awaits o (.monitor m) h) ∨
      ∃ w since, s.point o = .sleeping w since ∧ w.ms = 0 ∧
        (s.parks.get (s.who o)).signaled = false := by
  cases hs.1.blocked hv o with
  | rests r hp | overflowed hp =>
    rw [hp] at hi
    exact hi.elim
  | asleep w since hp he => exact .inr ⟨w, since, hp, hs.untimed hv hp, he⟩
  | monitor m h hm hh hn => exact .inl ⟨m, h, .monitor m h hm hh hn⟩
  | cell j h hr hh hn =>
    rw [hc.free_of_stuck hv hs.1 j] at hh
    cases hh

/-- **No deadlock through park cells.** -/
theorem Run.untangled (h : Run home past s) : Untangled s where
  held := h.held.cell
  one o j k hj hk := by
    have := (h.held.cell o j).mp hj
    rw [(h.held.cell o k).mp hk] at this
    exact (Option.some.inj this).symm
  free _ _ := State.Celled.not_blocked h.held.cell
  goes _ _ hv := h.held.goes hv
  acyclic _ _ _ := State.Celled.not_circular h.held.cell
  still hv hs _ := State.Celled.awaits_or_asleep h.held.cell hv hs

/-- First an interruption of a sleeping thread awaits the OS thread that notifies it. Then two
threads have locked each other out of two monitors, and a third one sleeps in a nested one. -/
theorem untangled_nested :
    (∃ past s, Run id past s ∧ s.violation = none ∧ s.Awaits 2 (.cell 0) 1 ∧ Untangled s) ∧
    ∃ past s, Run id past s ∧ s.violation = none ∧ s.Still ∧ s.WaitsFor 0 1 ∧ s.WaitsFor 1 0 ∧
      (s.point 2).IsInside ∧ Untangled s := by
  constructor
  · obtain ⟨past, s, h, hp⟩ := exists_run id
      (fun _ s => s.violation = none ∧ (s.point 2).reach (s.who 2) = some 0 ∧
        (s.parks.get 0).lock.holder = some 1)
      (Label.enter 0 0 ++ Label.doze 0 0 ++ Label.enter 1 0 ++
        [.call 1 1 (.notify 0), .advance 1, .call 2 2 (.interrupt 0)]) (by decide)
    simp only [decide_eq_true_eq] at hp
    obtain ⟨hv, hr, hh⟩ := hp
    exact ⟨past, s, h, hv, .cell 0 1 hr hh (by decide), h.untangled⟩
  · obtain ⟨past, s, h, hp⟩ := exists_run id
      (fun _ s => s.violation = none ∧
        s.threads.cells = [⟨0, .entering 1⟩, ⟨1, .entering 0⟩, ⟨2, .sleeping ⟨3, 0, 1⟩ 0⟩] ∧
        (s.monitors.get 1).lock.holder = some 1 ∧ (s.monitors.get 0).lock.holder = some 0 ∧
        (s.parks.get 2).signaled = false)
      (Label.enter 2 2 ++ Label.enter 2 3 ++ Label.doze 2 3 ++ Label.enter 0 0 ++ Label.enter 1 1 ++
        [.call 0 0 (.acquire 1), .call 1 1 (.acquire 0)]) (by decide)
    simp only [decide_eq_true_eq] at hp
    obtain ⟨hv, ht, h1, h0, he⟩ := hp
    have hg (o : OsThread) : s.threads.get o = [⟨0, .entering 1⟩, ⟨1, .entering 0⟩,
        ⟨2, .sleeping ⟨3, 0, 1⟩ 0⟩].getD o default := by rw [Row.get, ht]
    have h01 : s.Awaits 0 (.monitor 1) 1 := .monitor 1 1 (by rw [point, hg]; rfl) h1 (by decide)
    have h10 : s.Awaits 1 (.monitor 0) 0 := .monitor 0 0 (by rw [point, hg]; rfl) h0 (by decide)
    have hb (o : OsThread) : s.Blocked o := by
      rcases o with _ | _ | _ | o
      · exact h01.blocked
      · exact h10.blocked
      · exact .asleep ⟨3, 0, 1⟩ 0 (by rw [point, hg]; rfl) (by rw [who, hg]; exact he)
      · exact .rests none (by rw [point, hg]; rfl)
    have hm (o : OsThread) (w : Waiting) (since : Nat) (hp : s.point o = .sleeping w since) :
        w.ms = 0 := by
      rw [point, hg] at hp
      rcases o with _ | _ | _ | o <;> cases hp
      rfl
    have hs : s.Still := still_of_blocked hb hm
    exact ⟨past, s, h, hv, hs, ⟨_, h01⟩, ⟨_, h10⟩, by rw [point, hg]; trivial, h.untangled⟩

end VmHost.Monitor
