import VmHost.Proofs.Monitor.Guarded
import VmHost.Proofs.Monitor.Ledger

/-!
# A monitor has one owner

An identity is inside a monitor from the answer to its first call to enter, or to a wait, up to its
last call to leave, or to its next wait (`Inside`). This is said by calls and answers alone.

`Run.ownership` says for every state of a disciplined run that the owner's OS thread holds the mutex,
that nobody owns a monitor whose mutex is free, that at most one identity is inside, that the mutex
guards the depth and the queue, and that no mutex operation fails.
-/
namespace VmHost.Monitor

open State Point

/-- A call of an identity has no answer yet. -/
def Pending (home : Identity → OsThread) (past : List Moment) (s : State) (i : Identity) (c : Call) :
    Prop :=
  lastCall (home i) past = some (i, c) ∧ ∀ r, s.point (home i) ≠ .rest r

/-- An identity has entered a monitor, has not left it again and is not waiting. -/
def Inside (home : Identity → OsThread) (past : List Moment) (s : State) (i : Identity)
    (m : MonitorId) : Prop :=
  0 < entries i m past ∧ ∀ ms, ¬ Pending home past s i (.wait m ms)

/-- Monitors are owned properly in a state that a run has reached. -/
structure Ownership (home : Identity → OsThread) (past : List Moment) (s : State) : Prop where
  owned : ∀ m i, (s.monitors.get m).owner = some i →
    (s.monitors.get m).lock.holder = some (home i) ∧ 1 ≤ (s.monitors.get m).depth
  free : ∀ m, (s.monitors.get m).lock.holder = none →
    (s.monitors.get m).owner = none ∧ (s.monitors.get m).depth = 0
  inside : ∀ m i, Inside home past s i m →
    (s.monitors.get m).owner = some i ∧ (s.monitors.get m).depth = entries i m past
  alone : ∀ m i j, Inside home past s i m → Inside home past s j m → i = j
  /-- An OS thread that does not hold the mutex after its step has neither read nor written the
  depth or the queue: it takes the same step whatever they are, and leaves them alone. -/
  guarded : ∀ l t m d q, l.Fits home → s.step l = some t →
    (∀ o, l.actor = some o → (t.monitors.get m).lock.holder ≠ some o) →
    (s.withGuarded m d q).step l = some (t.withGuarded m d q)
  /-- Leaving never finds the depth at zero. -/
  leaves : ∀ o i m t, (Label.call o i (.release m)).Fits home →
    s.step (.call o i (.release m)) = some t → t.point o ≠ .overflowed
  released : ∀ o, s.violation ≠ some (o, .lockNotHeld)
  /-- No mutex operation fails, if identities do not share OS threads. -/
  taken : (∀ i j, home i = home j → i = j) →
    ∀ o operation code, s.violation ≠ some (o, .unexpected operation code)

variable {home : Identity → OsThread} {s t : State} {l : Label} {o : OsThread} {i : Identity}
  {m : MonitorId} {past : List Moment}

/-! ## Who is inside -/

theorem Run.pending_of_wait? (h : Run home past s) {w : Waiting} (hw : s.waitOf home i = some w) :
    Pending home past s i (.wait w.monitor w.ms) := by
  obtain ⟨hi, hp⟩ := waitOf_eq_some_iff.mp hw
  have hr : ∀ r, s.point (home i) ≠ .rest r := by
    intro r hr
    rw [hr] at hp
    cases hp
  rcases h.serves (home i) with ⟨r, hr'⟩ | ⟨c, hc, hs⟩
  · exact absurd hr' (hr r)
  · refine ⟨?_, hr⟩
    have : c = .wait w.monitor w.ms := by
      cases hq : s.point (home i) <;> rw [hq] at hp hs <;> cases hp <;> exact hs
    rw [hc, hi, this]

/-- Who is inside by calls and answers is the owner, at the depth that these make. -/
theorem Run.inside (h : Run home past s) (hi : Inside home past s i m) :
    (s.monitors.get m).owner = some i ∧ (s.monitors.get m).depth = entries i m past := by
  obtain ⟨hn, hw⟩ := hi
  have hc := h.counts i m
  unfold stake at hc
  split at hc
  · rename_i ho
    exact ⟨ho, hc.symm⟩
  split at hc
  · rename_i w hp
    split at hc
    · rename_i hm
      subst hm
      exact absurd (h.pending_of_wait? hp) (hw w.ms)
    · omega
  · omega

/-! ## No mutex operation fails -/

/-- The only mutex operation that can fail takes a mutex for one identity of an OS thread that holds
it for another one. -/
theorem Held.crashes (h : Held home s) {v : Violation} (hc : Crashes s o v) :
    v ≠ .lockNotHeld ∧ ∃ i j, home i = home j ∧ i ≠ j := by
  obtain ⟨hv, m, hs, hh⟩ := h.seek_of_crashes hc
  have ht : (s.point o).tie = .outside m := by
    cases hp : s.point o <;> rw [hp] at hs <;> cases hs <;> rfl
  refine ⟨hv, ?_⟩
  cases hi : (s.monitors.get m).owner with
  | none =>
    have := h.given m o hh hi
    rw [ht] at this
    cases this
  | some i =>
    have hm := (h.owned m i hi).1
    rw [hh, Option.some.injEq] at hm
    refine ⟨i, s.who o, ?_, ?_⟩
    · rw [← hm, h.home_who o (by simp [ht])]
    · rintro rfl
      exact h.outside ht hi

/-- Where a violation comes from. -/
theorem Transition.violation (ht : Transition s l t) (hv : s.violation = none) {v : Violation}
    (h : t.violation = some (o, v)) : (∃ i c, Refused s i c v) ∨ Crashes s o v := by
  cases ht with
  | refused _ hc =>
    cases h
    exact .inl ⟨_, _, hc⟩
  | crashes hc =>
    cases h
    exact .inr hc
  | _ =>
    rw [show s.violation = some (o, v) from h] at hv
    cases hv

theorem Run.mutexes (h : Run home past s) {v : Violation} (hv : s.violation = some (o, v)) :
    (∃ t i c, Refused t i c v) ∨ v ≠ .lockNotHeld ∧ ∃ i j, home i = home j ∧ i ≠ j := by
  cases h with
  | start => cases hv
  | @step _ s _ l hr hf hs =>
    rcases (step_transition hs).violation (step_violation hs) hv with ⟨i, c, hc⟩ | hc
    · exact .inl ⟨_, _, _, hc⟩
    · exact .inr (hr.held.crashes hc)

/-- **Ownership.** In every state of a disciplined run a monitor is owned properly. -/
theorem Run.ownership (h : Run home past s) : Ownership home past s where
  owned := h.held.owned
  free m hn := ⟨h.held.owner_of_free hn, h.held.unowned m (h.held.owner_of_free hn)⟩
  inside _ _ := h.inside
  alone m i j hi hj := by
    have := (h.inside hi).1
    rw [(h.inside hj).1] at this
    exact (Option.some.inj this).symm
  guarded _ _ _ _ _ hf hs hm := h.held.untouched hf hs hm
  leaves o i m t hf hs := by
    cases step_transition hs with
    | begins _ hb =>
      cases hb with
      | overflow _ _ _ hc => cases hc
      | underflow _ hi hd =>
        have := (h.held.owned m i hi).2
        rw [hd] at this
        cases this
    | nests _ hc | notifiesNobody _ hc | notifies _ hc => cases hc
    | refused | unnests | quits => simp
    | wakes _ hl => rcases hl with ⟨⟨⟩, -⟩ | ⟨⟨⟩, -⟩
  released o hv := by
    rcases h.mutexes hv with ⟨t, i, c, ⟨⟩⟩ | ⟨hn, -⟩
    exact hn rfl
  taken hi o operation code hv := by
    rcases h.mutexes hv with ⟨t, i, c, ⟨⟩⟩ | ⟨-, i, j, he, hne⟩
    exact hne (hi i j he)

/-- While the first identity is inside a monitor that it has entered twice, the second one is about
to enter it. -/
theorem ownership_nested : ∃ past s, Run id past s ∧ (s.monitors.get 0).depth = 2 ∧
    s.point 1 = .entering 0 ∧ Ownership id past s := by
  obtain ⟨past, s, h, hp⟩ := exists_run id
    (fun _ s => (s.monitors.get 0).depth = 2 ∧ s.point 1 = .entering 0)
    (Label.enter 0 0 ++ [.call 1 1 (.acquire 0), .call 0 0 (.acquire 0)]) (by decide)
  simp only [decide_eq_true_eq] at hp
  exact ⟨past, s, h, hp.1, hp.2, h.ownership⟩

end VmHost.Monitor
