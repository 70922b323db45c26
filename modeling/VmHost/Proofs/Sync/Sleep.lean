import VmHost.Proofs.Sync.Transition

/-!
# How a wait on an event ends

A thread that waits on an event reads the word again whenever the kernel ends its sleep, for whatever
reason. `Within` says where it may stand in between, with the deadline that it keeps. Every step of
any thread, of the kernel or of the clock leaves it there, unless it answers: that the word was
signaled, or that the time has run out (`within_step`).
-/
namespace VmHost.Event

/-- A deadline for a wait of so many milliseconds since a time; zero means without an end. -/
def Allows (ms since : Nat) : Option Nat → Prop
  | none => ms = 0
  | some deadline => ms ≠ 0 ∧ since + ms ≤ deadline

/-- An OS thread is in the middle of a wait of so many milliseconds, which began at a time. -/
def Point.Within (ms since : Nat) : Point → Prop
  | .timing k => k = ms ∧ ms ≠ 0
  | .reading d | .dozing d | .asleep d => Allows ms since d
  | .weighing d => Allows ms since (some d)
  | .out _ | .swapping | .waking | .clearing => False

open State

variable {s t : State} {l : Label} {o : OsThread} {p : Point} {ms since : Nat}

/-- To be woken by another thread leaves a thread in the middle of its wait. -/
theorem Point.Within.wake (h : p.Within ms since) : (wake p).Within ms since := by
  cases p <;> exact h

/-- Its own step leaves a thread in the middle of its wait, or ends that for a reason. -/
theorem Moves.within (hm : Moves s o p) (h : (s.threads.get o).Within ms since)
    (hn : since ≤ s.now) : p.Within ms since ∨
      (p = .out (some true) ∧ s.signaled = true ∨
        p = .out (some false) ∧ ms ≠ 0 ∧ since + ms ≤ s.now) := by
  cases hm with
  | relies hp hw =>
    rw [hp] at h
    exact h.elim
  | times hp =>
    rw [hp] at h
    obtain ⟨rfl, hk⟩ := h
    exact .inl ⟨hk, by omega⟩
  | sees hp hw => exact .inr (.inl ⟨rfl, hw⟩)
  | expires hp hd =>
    rw [hp] at h
    obtain ⟨hm, hl⟩ := h
    exact .inr (.inr ⟨rfl, hm, by omega⟩)
  | misses hp _ | lingers hp _ | stays hp _ | sleeps hp _ | returns hp _ =>
    rw [hp] at h
    exact .inl h

namespace State

/-- A wait begins within itself. -/
theorem within_first : (first (.wait (if ms = 0 then none else some ms))).Within ms since := by
  by_cases h : ms = 0
  · simp [h, first, Point.Within, Allows]
  · simp [h, first, Point.Within]

/-- Whatever happens, a thread stays in the middle of its wait, until it has read a signaled word or
its time has run out. -/
theorem within_step (hs : s.step l = some t) (hp : (s.threads.get o).Within ms since)
    (hn : since ≤ s.now) : (t.threads.get o).Within ms since ∨
      (t.threads.get o = .out (some true) ∧ s.signaled = true ∨
        t.threads.get o = .out (some false) ∧ ms ≠ 0 ∧ since + ms ≤ s.now) := by
  have ne_of : ∀ {x q}, s.threads.get x = q → ¬ q.Within ms since → o ≠ x := by
    rintro x q rfl hq rfl
    exact hq hp
  cases step_transition hs with
  | calls hx | swaps hx _ | clears hx =>
    rw [get_moveTo, if_neg (ne_of hx nofun)]
    exact .inl hp
  | wakes hx =>
    rw [get_moveTo, if_neg (ne_of hx nofun), get_wake]
    exact .inl hp.wake
  | moves hm =>
    rw [get_moveTo]
    split
    · rename_i e
      subst e
      exact hm.within hp hn
    · exact .inl hp
  | rouses hx =>
    rw [get_moveTo]
    split
    · rename_i e
      rw [e, hx] at hp
      exact .inl hp
    · exact .inl hp
  | passes => exact .inl hp

end State
end VmHost.Event
