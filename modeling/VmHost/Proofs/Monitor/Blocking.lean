import VmHost.Proofs.Monitor.Enabled
import VmHost.Proofs.Monitor.Holding

/-!
# Who cannot go on

An OS thread has no step of its own only for one of the reasons of `Blocked`: it rests, it sleeps, or
another OS thread holds what it needs. A park cell is never the last reason, since whoever holds one
can go on (`Blocked.holds_nothing`): where nobody can, all of them are free
(`Celled.free_of_stuck`).
-/
namespace VmHost.Monitor

open State Point

/-- The reason why an OS thread does not go on. -/
inductive State.Blocked (s : State) (o : OsThread) : Prop
  | rests (r : Option Reply) : s.point o = .rest r → Blocked s o
  | overflowed : s.point o = .overflowed → Blocked s o
  | asleep (w : Waiting) (since : Nat) : s.point o = .sleeping w since →
    (s.parks.get (s.who o)).signaled = false → Blocked s o
  | monitor (m : MonitorId) (h : OsThread) : (s.point o).seek = some m →
    (s.monitors.get m).lock.holder = some h → h ≠ o → Blocked s o
  | cell (j : Identity) (h : OsThread) : (s.point o).reach (s.who o) = some j →
    (s.parks.get j).lock.holder = some h → h ≠ o → Blocked s o

/-- Nobody has a step without a call. -/
def State.Stuck (s : State) : Prop := ∀ o t, s.step (.advance o) ≠ some t

variable {s : State} {o : OsThread} {j : Identity} {m : MonitorId}

theorem State.lockMonitor_or (s : State) (o : OsThread) (m : MonitorId) (next : State → State) :
    (∃ t, s.lockMonitor o m next = some t) ∨
      ∃ h, (s.monitors.get m).lock.holder = some h ∧ h ≠ o := by
  cases hh : (s.monitors.get m).lock.holder with
  | none => exact .inl ⟨_, lockMonitor_free hh⟩
  | some h =>
    by_cases e : h = o
    · subst e
      exact .inl ⟨_, lockMonitor_held hh⟩
    · exact .inr ⟨h, rfl, e⟩

theorem State.lockPark_or (s : State) (o : OsThread) (j : Identity) (next : State → State) :
    (∃ t, s.lockPark o j next = some t) ∨
      ∃ h, (s.parks.get j).lock.holder = some h ∧ h ≠ o := by
  cases hh : (s.parks.get j).lock.holder with
  | none => exact .inl ⟨_, lockPark_free hh⟩
  | some h =>
    by_cases e : h = o
    · subst e
      exact .inl ⟨_, lockPark_held hh⟩
    · exact .inr ⟨h, rfl, e⟩

theorem State.lockMonitor_busy {h : OsThread} {next : State → State}
    (hh : (s.monitors.get m).lock.holder = some h) (hn : h ≠ o) : s.lockMonitor o m next = none := by
  simp [lockMonitor, Mutex.take, hh, hn]

theorem State.lockPark_busy {h : OsThread} {next : State → State}
    (hh : (s.parks.get j).lock.holder = some h) (hn : h ≠ o) : s.lockPark o j next = none := by
  simp [lockPark, Mutex.take, hh, hn]

/-- An OS thread goes on, or there is a reason why not. -/
theorem State.advances_or_blocked (hv : s.violation = none) (o : OsThread) :
    (∃ t, s.step (.advance o) = some t) ∨ s.Blocked o := by
  rw [step_advance hv]
  unfold advance
  cases hp : s.point o with
  | rest r => exact .inr (.rests r hp)
  | overflowed => exact .inr (.overflowed hp)
  | entering | reentering =>
    exact (s.lockMonitor_or o _ _).imp_right fun ⟨h, hh, hn⟩ =>
      .monitor _ h (by rw [hp]; rfl) hh hn
  | queueing | waking | reaching | posting | asking =>
    exact (s.lockPark_or o _ _).imp_right fun ⟨h, hh, hn⟩ => .cell _ h (by rw [hp]; rfl) hh hn
  | sleeping w since =>
    cases hs : (s.parks.get (s.who o)).signaled with
    | true => exact .inl ⟨_, if_pos hs⟩
    | false => exact .inr (.asleep w since hp hs)
  | trying m =>
    refine .inl ?_
    dsimp only
    split <;> exact ⟨_, rfl⟩
  | _ => exact .inl ⟨_, rfl⟩

/-- An OS thread for which there is a reason does not go on. -/
theorem State.Blocked.no_step (h : s.Blocked o) (t : State) : s.step (.advance o) ≠ some t := by
  intro ht
  rw [step_advance (step_violation ht)] at ht
  cases h with
  | rests r hp | overflowed hp => simp [advance, hp] at ht
  | asleep w since hp hs => simp [advance, hp, hs] at ht
  | monitor m h hs hh hn =>
    cases hp : s.point o <;> rw [hp] at hs <;> cases hs <;>
      simp [advance, hp, lockMonitor_busy hh hn] at ht
  | cell j h hr hh hn =>
    cases hp : s.point o <;> rw [hp] at hr <;> cases hr <;>
      simp [advance, hp, lockPark_busy hh hn] at ht

/-- Where nobody goes on, there is a reason for everybody. -/
theorem State.Stuck.blocked (hs : s.Stuck) (hv : s.violation = none) (o : OsThread) :
    s.Blocked o :=
  (advances_or_blocked hv o).resolve_left fun ⟨t, ht⟩ => hs o t ht

/-- Who does not go on holds no park cell and has given no monitor up. -/
theorem State.Blocked.holds_nothing (h : s.Blocked o) :
    (s.point o).cell (s.who o) = none ∧ ∀ m, (s.point o).tie ≠ .giving m := by
  cases h with
  | rests r hp | overflowed hp | asleep w since hp =>
    rw [hp]
    exact ⟨rfl, nofun⟩
  | monitor m k hs =>
    cases hp : s.point o <;> rw [hp] at hs <;> cases hs <;> exact ⟨rfl, nofun⟩
  | cell j k hr =>
    cases hp : s.point o <;> rw [hp] at hr <;> cases hr <;> exact ⟨rfl, nofun⟩

/-- Where nobody goes on, all park cells are free. -/
theorem State.Celled.free_of_stuck (h : s.Celled) (hv : s.violation = none) (hs : s.Stuck)
    (j : Identity) : (s.parks.get j).lock.holder = none := by
  refine Option.eq_none_iff_forall_ne_some.mpr fun o hh => ?_
  rw [h o j, (hs.blocked hv o).holds_nothing.1] at hh
  cases hh

/-- Where nobody goes on, a mutex is held for the owner of its monitor. -/
theorem Held.owned_of_stuck {home : Identity → OsThread} (h : Held home s)
    (hv : s.violation = none) (hs : s.Stuck) (hh : (s.monitors.get m).lock.holder = some o) :
    ∃ i, (s.monitors.get m).owner = some i ∧ home i = o := by
  cases hi : (s.monitors.get m).owner with
  | some i =>
    have := (h.owned m i hi).1
    rw [hh, Option.some.injEq] at this
    exact ⟨i, rfl, this.symm⟩
  | none => exact absurd (h.given m o hh hi) ((hs.blocked hv o).holds_nothing.2 m)

end VmHost.Monitor
