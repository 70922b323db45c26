import VmHost.Proofs.Monitor.Episode
import VmHost.Proofs.Monitor.Ownership

/-!
# What a thread has entered and left

All owners of a monitor share one depth in turn, and a wait sets it to zero for the others. The
callers need not care: `balance` adds up what an identity has entered and left by calls and answers
alone, over the whole run, and `Run.reentrancy` says that between calls it is never negative, that it
is positive for the owner only, and that it is the depth then. A wait does not count, and it returns
at the depth at which it was called.

The proof compares the balance with `entries`, which counts a call to leave at once. They differ while
a thread that has left for the last time still has to release the mutex (`Run.balance`).
-/
namespace VmHost.Monitor

open State Point

/-- With the newest step a call of an identity to leave a monitor is done. -/
def HasLeft (i : Identity) (m : MonitorId) (past : List Moment) : Prop :=
  answered past = some (i, .release m, .done)

instance (i : Identity) (m : MonitorId) (past : List Moment) : Decidable (HasLeft i m past) :=
  inferInstanceAs (Decidable (_ = _))

/-- How often an identity has entered a monitor, less how often it has left it. -/
def balance (i : Identity) (m : MonitorId) : List Moment → Int
  | [] => 0
  | x :: past =>
    balance i m past + (if HasEntered i m (x :: past) then 1 else 0) -
      (if HasLeft i m (x :: past) then 1 else 0)

/-- The monitor that a call is on. -/
def Call.monitor? : Call → Option MonitorId
  | .acquire m | .tryAcquire m | .release m | .wait m _ | .notify m | .notifyAll m | .depth m
  | .waiterCount m | .dispose m => some m
  | .interrupt _ | .query .. => none

/-- An identity is inside a call on a monitor. -/
def Busy (home : Identity → OsThread) (past : List Moment) (s : State) (i : Identity)
    (m : MonitorId) : Prop :=
  ∃ c, Pending home past s i c ∧ c.monitor? = some m

/-- An identity has left a monitor for the last time, but for the mutex. -/
def State.Leaves (s : State) (home : Identity → OsThread) (i : Identity) (m : MonitorId) : Prop :=
  s.who (home i) = i ∧ s.point (home i) = .leaving m

instance (s : State) (home : Identity → OsThread) (i : Identity) (m : MonitorId) :
    Decidable (s.Leaves home i m) :=
  inferInstanceAs (Decidable (_ ∧ _))

variable {home : Identity → OsThread} {s t : State} {l : Label} {o : OsThread} {i j : Identity}
  {m : MonitorId} {c : Call} {past : List Moment}

/-! ## Who has left -/

theorem hasLeft_iff {x : Moment} (ho : x.label.actor = some o) :
    HasLeft i m (x :: past) ↔
      lastCall o (x :: past) = some (i, .release m) ∧ x.after.point o = .rest (some .done) := by
  rw [HasLeft, answered_eq_some_iff ho, Moment.answer?_eq_some_iff]

theorem hasLeft_call_iff : HasLeft i m (⟨s, .call o j c, t⟩ :: past) ↔
    (j = i ∧ c = .release m) ∧ t.point o = .rest (some .done) := by
  rw [hasLeft_iff rfl, lastCall_call]
  simp

/-- Within an operation, an OS thread leaves by releasing the mutex. -/
theorem State.Serves.hasLeft_iff (hv : s.Serves o past) (hr : ∀ r, s.point o ≠ .rest r)
    (hf : s.point o ≠ .overflowed) :
    HasLeft i m (⟨s, .advance o, t⟩ :: past) ↔
      s.who o = i ∧ s.point o = .leaving m ∧ t.point o = .rest (some .done) := by
  rw [Monitor.hasLeft_iff rfl, lastCall_advance]
  rcases hv with ⟨r, h⟩ | ⟨c, hc, hs⟩
  · exact absurd h (hr r)
  · rw [hc]
    constructor
    · rintro ⟨⟨⟩, ht⟩
      refine ⟨rfl, ?_, ht⟩
      cases hp : s.point o <;> rw [hp] at hs hf <;> simp_all [Point.Serves]
    · rintro ⟨rfl, hp, ht⟩
      rw [hp] at hs
      obtain rfl : c = .release m := hs
      exact ⟨rfl, ht⟩

/-! ## The balance and the count of the monitor -/

/-- An OS thread comes to release the mutex for good by a call to leave. -/
theorem Transition.leaving_or (ht : Transition s l t) (hl : l.actor = some o)
    (hp : t.point o = .leaving m) :
    l = .call o (t.who o) (.release m) ∨ s.point o = .leaving m ∧ t.who o = s.who o := by
  cases ht with
  | quits =>
    cases hl
    rw [point_place, if_pos rfl] at hp
    cases hp
    exact .inl (by simp)
  | crashes => exact .inr ⟨hp, rfl⟩
  | begins _ hb =>
    cases hl
    rw [point_place, if_pos rfl] at hp
    cases hb <;> cases hp
  | posts _ _ hq =>
    cases hl
    rw [point_place, if_pos rfl, hq] at hp
    split at hp <;> cases hp
  | wakes _ hl' =>
    cases Option.some.inj ((wakes_actor hl').symm.trans hl)
    rw [point_place, if_pos rfl] at hp
    cases hp
  | passes => cases hl
  | _ =>
    cases hl
    simp at hp

/-- The mutex is released with the next step. -/
theorem Held.leaves_next (h : Held home s) (ht : Transition s l t) (hl : l.actor = some o)
    (hp : s.point o = .leaving m) : l = .advance o ∧ t.point o = .rest (some .done) := by
  have hc : ∀ v, ¬ Crashes s o v := fun v => h.not_crashes (by rw [hp]; rfl)
  cases ht with
  | crashes hc' =>
    cases hl
    exact absurd hc' (hc _)
  | leaves =>
    cases hl
    exact ⟨rfl, by simp⟩
  | enters hq =>
    cases hl
    rcases hq with ⟨hq, -⟩ | ⟨hq, -⟩ <;> rw [hp] at hq <;> cases hq
  | wakes hq hl' =>
    cases Option.some.inj ((wakes_actor hl').symm.trans hl)
    rw [hp] at hq
    cases hq
  | passes => cases hl
  | _ =>
    cases hl
    simp_all

/-- Whoever has left, has left on its own OS thread. -/
theorem Run.hasLeft_actor (h : Run home (⟨s, l, t⟩ :: past) t)
    (hl : HasLeft i m (⟨s, l, t⟩ :: past)) : l.actor = some (home i) := by
  cases ho : l.actor with
  | none => simp [HasLeft, answered, ho] at hl
  | some o =>
    obtain ⟨hc, -⟩ := (hasLeft_iff ho).mp hl
    rw [h.home_of_lastCall hc rfl]

/-- Apart from the calls to leave, a thread that has left still has the mutex until it is done. -/
theorem Run.leaves_next (h : Run home past s) (hf : l.Fits home) (hs : s.step l = some t)
    (hc : l.call? ≠ some (i, .release m)) :
    (if s.Leaves home i m then 1 else 0) - (if HasLeft i m (⟨s, l, t⟩ :: past) then 1 else 0) =
      if t.Leaves home i m then (1 : Int) else 0 := by
  have ht := step_transition hs
  by_cases ha : l.actor = some (home i)
  · by_cases hl : s.Leaves home i m
    · obtain ⟨hw, hp⟩ := hl
      obtain ⟨rfl, hr⟩ := h.held.leaves_next ht ha hp
      have hd : HasLeft i m (⟨s, .advance (home i), t⟩ :: past) :=
        ((h.serves _).hasLeft_iff (by simp [hp]) (by simp [hp])).mpr ⟨hw, hp, hr⟩
      simp [State.Leaves, hw, hp, hr, hd]
    · have hd : ¬ HasLeft i m (⟨s, l, t⟩ :: past) := by
        intro hd
        cases l with
        | call o j c =>
          obtain ⟨⟨rfl, rfl⟩, -⟩ := hasLeft_call_iff.mp hd
          exact hc rfl
        | advance o =>
          obtain rfl : o = home i := Option.some.inj ha
          obtain ⟨hr, hp⟩ := busy_of_advance hs
          obtain ⟨hw, hp, -⟩ := ((h.serves _).hasLeft_iff hr hp).mp hd
          exact hl ⟨hw, hp⟩
        | giveUp o =>
          obtain ⟨-, hr⟩ := (hasLeft_iff ha).mp hd
          cases ht with
          | wakes _ hl' =>
            cases Option.some.inj ((wakes_actor hl').symm.trans ha)
            simp at hr
        | pass => cases ha
      have ht' : ¬ t.Leaves home i m := by
        rintro ⟨hw, hp⟩
        rcases ht.leaving_or ha hp with rfl | ⟨hp, he⟩
        · rw [hw] at hc
          exact hc rfl
        · exact hl ⟨he ▸ hw, hp⟩
      simp [hl, hd, ht']
  · obtain ⟨hp, hw⟩ := ht.standing_other ha
    have hd : ¬ HasLeft i m (⟨s, l, t⟩ :: past) := fun hd => ha ((h.step l hf hs).hasLeft_actor hd)
    have hl : t.Leaves home i m ↔ s.Leaves home i m := by rw [State.Leaves, State.Leaves, hp, hw]
    simp [hl, hd]

/-- A call to leave is counted at once by `entries`, and by the balance when it is done. -/
theorem Run.leaves_call (h : Run home past s) (hf : (Label.call o i (.release m)).Fits home)
    (hs : s.step (.call o i (.release m)) = some t) :
    (entries i m past : Int) -
        (if HasLeft i m (⟨s, .call o i (.release m), t⟩ :: past) then 1 else 0) =
      entries i m (⟨s, .call o i (.release m), t⟩ :: past) +
        if t.Leaves home i m then 1 else 0 := by
  have ht := step_transition hs
  obtain rfl : home i = o := hf rfl
  have hn : ¬ HasEntered i m (⟨s, .call (home i) i (.release m), t⟩ :: past) :=
    not_hasEntered_call fun _ _ => by rintro ⟨⟩
  have hc := h.counts i m
  rw [entries, if_neg hn]
  simp only [hasLeft_call_iff, Label.call?, if_true]
  cases ht with
  | begins _ hb =>
    cases hb with
    | overflow _ _ _ hc => cases hc
    | underflow _ hi hd =>
      have := (h.held.owned m i hi).2
      omega
  | refused hr hv =>
    cases hv with
    | notOwner hn' ho =>
      cases hn'
      rw [stake_rest hr ho] at hc
      simp [State.Leaves, hc]
  | unnests _ hi hd =>
    rw [stake, if_pos hi, hd] at hc
    simp [State.Leaves, hc]
    omega
  | quits _ hi hd =>
    rw [stake, if_pos hi, hd] at hc
    simp [State.Leaves, hc]
  | nests _ hc => cases hc
  | notifiesNobody _ hc | notifies _ hc => cases hc
  | wakes _ hl => exact (not_wakes_call hl).elim

/-- The balance is the count of the monitor, and one more while the mutex is still to be released. -/
theorem Run.balance_eq (h : Run home past s) (i : Identity) (m : MonitorId) :
    balance i m past = entries i m past + if s.Leaves home i m then 1 else 0 := by
  induction h with
  | start => simp [balance, entries, State.Leaves]
  | @step past s t l hr hf hs ih =>
    rw [balance, ih]
    by_cases hc : l.call? = some (i, .release m)
    · cases l with
      | call o j c =>
        cases hc
        have hn : ¬ HasEntered i m (⟨s, .call o i (.release m), t⟩ :: past) :=
          not_hasEntered_call fun _ _ => by rintro ⟨⟩
        obtain rfl : home i = o := hf rfl
        obtain ⟨r, hp⟩ := (step_transition hs).rest_of_call
        have hl : ¬ s.Leaves home i m := fun hl => by
          have := hl.2
          rw [hp] at this
          cases this
        rw [← hr.leaves_call hf hs, if_neg hn, if_neg hl]
        omega
      | _ => cases hc
    · rw [entries, if_neg hc, ← hr.leaves_next hf hs hc]
      by_cases he : HasEntered i m (⟨s, l, t⟩ :: past)
      · rw [if_pos he, if_pos he]
        omega
      · rw [if_neg he, if_neg he]
        omega

/-! ## Waits -/

/-- Who has entered with a step, has called to. -/
theorem Run.enters_of_hasEntered {x : Moment} (h : Run home (x :: past) t)
    (he : HasEntered i m (x :: past)) :
    ∃ c a, lastCall (home i) (x :: past) = some (i, c) ∧ c.Enters m a := by
  cases ho : x.label.actor with
  | none => simp [HasEntered, answered, ho] at he
  | some o =>
    obtain ⟨c, a, hc, he, -⟩ := (hasEntered_iff ho).mp he
    obtain rfl := h.home_of_lastCall hc he.isNamed
    exact ⟨c, a, hc, he⟩

/-- A step within a wait does not count for the thread that waits. -/
theorem Run.entries_next {x : Moment} {ms : Nat} (h : Run home (x :: past) t)
    (hc : lastCall (home i) (x :: past) = some (i, .wait m ms)) :
    entries i m (x :: past) = entries i m past := by
  have he : ¬ HasEntered i m (x :: past) := by
    intro he
    obtain ⟨c, a, hc', he⟩ := h.enters_of_hasEntered he
    rw [hc] at hc'
    cases hc'
    cases he
  have hl : x.label.call? ≠ some (i, .release m) := by
    intro hl
    cases h with
    | step l _ hf _ =>
      cases l with
      | call o j c =>
        cases hl
        obtain rfl : home i = o := hf rfl
        rw [lastCall_call] at hc
        cases hc
      | _ => cases hl
  rw [entries, if_neg he, if_neg hl]
  rfl

/-- Since a thread has called a wait, its count is the depth at which it called. -/
theorem Run.since_wait {ms : Nat} (h : Run home past s)
    (hc : lastCall (home i) past = some (i, .wait m ms)) (hp : s.point (home i) ≠ .rest none) :
    ∃ x ∈ episode (home i) past, x.label = .call (home i) i (.wait m ms) ∧
      (x.before.monitors.get m).owner = some i ∧ 1 ≤ (x.before.monitors.get m).depth ∧
      entries i m past = (x.before.monitors.get m).depth := by
  induction h with
  | start => cases hc
  | @step past s t l hr hf hs ih =>
    have ht := step_transition hs
    have hn := (hr.step l hf hs).entries_next hc
    cases hx : Moment.calls (home i) ⟨s, l, t⟩ with
    | true =>
      obtain ⟨j, c, rfl⟩ := Moment.calls_iff.mp hx
      rw [lastCall_call] at hc
      cases hc
      rw [episode_call]
      refine ⟨_, List.mem_singleton_self _, rfl, ?_⟩
      cases ht with
      | begins _ hb =>
        cases hb with
        | overflow _ _ _ hc => cases hc
        | wait _ _ ho =>
          have hc := hr.counts i m
          rw [stake, if_pos ho] at hc
          exact ⟨ho, (hr.held.owned m i ho).2, hn.trans hc⟩
      | refused => simp at hp
      | nests _ hc | notifiesNobody _ hc | notifies _ hc => cases hc
      | wakes _ hl => exact (not_wakes_call hl).elim
    | false =>
      have hq : s.point (home i) ≠ .rest none := fun hq => hp (rest_of_not_calls hs hx hq)
      rw [lastCall_of_not_calls hx] at hc
      obtain ⟨x, hm, hl, ho, hd, he⟩ := ih hc hq
      exact ⟨x, mem_episode_cons hm hx, hl, ho, hd, hn.trans he⟩

/-! ## The result -/

/-- The balance of an identity is right in a state that a run has reached. -/
structure Reentrancy (home : Identity → OsThread) (past : List Moment) (s : State) : Prop where
  /-- Nobody leaves more often than it has entered. -/
  nonneg : ∀ i m, 0 ≤ balance i m past
  /-- Outside all calls on a monitor, an identity owns it if and only if it has entered more often
  than left, and the depth is by how much. -/
  owned : ∀ i m, ¬ Busy home past s i m →
    ((s.monitors.get m).owner = some i ↔ 0 < balance i m past) ∧
    ((s.monitors.get m).owner = some i → (s.monitors.get m).depth = balance i m past)
  /-- Whoever asks for the depth is told the balance. -/
  asked : ∀ i m t, s.step (.call (home i) i (.depth m)) = some t → t.violation = none →
    ∃ n : Nat, t.point (home i) = .rest (some (.count n)) ∧ n = balance i m past
  /-- A thread that waits does not own the monitor. Its balance is what it comes back to. -/
  waits : ∀ i w, s.waitOf home i = some w →
    (s.monitors.get w.monitor).owner ≠ some i ∧ balance i w.monitor past = w.saved
  /-- A wait returns to its owner, at the depth at which it was called. -/
  returns : ∀ i m ms a, answered past = some (i, .wait m ms, a) →
    ∃ x ∈ episode (home i) past, x.label = .call (home i) i (.wait m ms) ∧
      (x.before.monitors.get m).owner = some i ∧ (s.monitors.get m).owner = some i ∧
      (s.monitors.get m).depth = (x.before.monitors.get m).depth

/-- Who is about to release the mutex for good is inside a call to leave. -/
theorem Run.busy_of_leaves (h : Run home past s) (hl : s.Leaves home i m) :
    Busy home past s i m := by
  obtain ⟨hw, hp⟩ := hl
  rcases h.serves (home i) with ⟨r, hr⟩ | ⟨c, hc, hs⟩
  · rw [hp] at hr
    cases hr
  · rw [hp] at hs
    obtain rfl : c = .release m := hs
    rw [hw] at hc
    exact ⟨_, ⟨hc, by simp [hp]⟩, rfl⟩

/-- Outside all calls on a monitor, the balance of its owner is the depth, and that of others zero. -/
theorem Run.balance_of_not_busy (h : Run home past s) (hb : ¬ Busy home past s i m) :
    balance i m past =
      if (s.monitors.get m).owner = some i then ((s.monitors.get m).depth : Int) else 0 := by
  rw [h.balance_eq i m, if_neg fun hl => hb (h.busy_of_leaves hl), h.counts i m, stake]
  split
  · omega
  · split
    · rename_i w hw
      rw [if_neg]
      · rfl
      · rintro rfl
        exact hb ⟨_, h.pending_of_wait? hw, rfl⟩
    · rfl

theorem Run.balance_of_wait (h : Run home past s) {w : Waiting} (hw : s.waitOf home i = some w) :
    (s.monitors.get w.monitor).owner ≠ some i ∧ balance i w.monitor past = w.saved := by
  obtain ⟨hi, hp⟩ := waitOf_eq_some_iff.mp hw
  have ho : (s.monitors.get w.monitor).owner ≠ some i := by
    cases hq : s.point (home i) with
    | yielding v =>
      obtain rfl : v = w := by rw [hq] at hp; exact Option.some.inj hp
      rw [(h.held.giving (by rw [hq]; rfl)).2]
      simp
    | clearing v | parking v | sleeping v | waking v | deciding v | reentering v =>
      obtain rfl : v = w := by rw [hq] at hp; exact Option.some.inj hp
      have := h.held.outside (o := home i) (m := v.monitor) (by rw [hq]; rfl)
      rwa [hi] at this
    | _ =>
      rw [hq] at hp
      cases hp
  have hl : ¬ s.Leaves home i w.monitor := by
    rintro ⟨-, hq⟩
    rw [hq] at hp
    cases hp
  refine ⟨ho, ?_⟩
  rw [h.balance_eq, if_neg hl, h.counts, stake, if_neg ho, hw]
  simp

theorem Run.depth_of_wait (h : Run home past s) {ms : Nat} {a : Reply}
    (ha : answered past = some (i, .wait m ms, a)) :
    ∃ x ∈ episode (home i) past, x.label = .call (home i) i (.wait m ms) ∧
      (x.before.monitors.get m).owner = some i ∧ (s.monitors.get m).owner = some i ∧
      (s.monitors.get m).depth = (x.before.monitors.get m).depth := by
  cases h with
  | start => cases ha
  | @step past u _ l hr hf hs =>
    have h := hr.step l hf hs
    cases hl : l.actor with
    | none => simp [answered, hl] at ha
    | some o =>
      obtain ⟨hc, hp⟩ := (answered_eq_some_iff hl).mp ha
      rw [Moment.answer?_eq_some_iff] at hp
      obtain rfl := h.home_of_lastCall hc rfl
      obtain ⟨x, hx, hxl, hxo, hd, he⟩ := h.since_wait hc (by rw [hp]; simp)
      refine ⟨x, hx, hxl, hxo, ?_⟩
      have hs := h.counts i m
      by_cases ho : (s.monitors.get m).owner = some i
      · rw [stake, if_pos ho] at hs
        exact ⟨ho, hs.symm.trans he⟩
      · rw [stake_rest hp ho] at hs
        omega

/-- **Reentrancy.** -/
theorem Run.reentrancy (h : Run home past s) : Reentrancy home past s where
  nonneg i m := by
    rw [h.balance_eq]
    split <;> omega
  owned i m hb := by
    have he := h.balance_of_not_busy hb
    constructor
    · constructor
      · intro ho
        have := (h.held.owned m i ho).2
        rw [if_pos ho] at he
        omega
      · intro hp
        refine Decidable.byContradiction fun ho => ?_
        rw [if_neg ho] at he
        omega
    · intro ho
      rw [if_pos ho] at he
      exact he.symm
  asked i m t hs hv := by
    obtain ⟨r, hr⟩ := (step_transition hs).rest_of_call
    have hb : ¬ Busy home past s i m := fun ⟨c, hc, _⟩ => hc.2 r hr
    cases step_transition hs with
    | begins _ hq =>
      cases hq with
      | overflow _ _ _ hc => cases hc
      | depth _ ho =>
        refine ⟨(s.monitors.get m).depth, by simp, ?_⟩
        rw [h.balance_of_not_busy hb, if_pos ho]
    | refused => cases hv
    | nests _ hc | notifiesNobody _ hc | notifies _ hc => cases hc
    | wakes _ hl => exact (not_wakes_call hl).elim
  waits i w hw := h.balance_of_wait hw
  returns i m ms a ha := h.depth_of_wait ha

/-- While the first thread waits, which has entered the monitor twice, the second one owns it at a
depth of three. Notified, the first one has come back to a depth of two. -/
theorem reentrancy_wait : ∃ past s, Run id past s ∧
    (∃ x ∈ past, x.before.waitOf id 0 = some ⟨0, 0, 2⟩ ∧
      (x.before.monitors.get 0).owner = some 1 ∧ (x.before.monitors.get 0).depth = 3) ∧
    answered past = some (0, .wait 0 0, .bool false) ∧ balance 0 0 past = 2 ∧
    balance 1 0 past = 0 ∧ Reentrancy id past s := by
  obtain ⟨past, s, h, hp⟩ := exists_run id
    (fun past _ => (∃ x ∈ past, x.before.waitOf id 0 = some ⟨0, 0, 2⟩ ∧
        (x.before.monitors.get 0).owner = some 1 ∧ (x.before.monitors.get 0).depth = 3) ∧
      answered past = some (0, .wait 0 0, .bool false) ∧ balance 0 0 past = 2 ∧
      balance 1 0 past = 0)
    (Label.enter 0 0 ++ [.call 0 0 (.acquire 0)] ++ Label.doze 0 0 ++ Label.enter 1 0 ++
      [.call 1 1 (.acquire 0), .call 1 1 (.tryAcquire 0)] ++ Label.notifyFirst 1 0 ++
      List.replicate 3 (.call 1 1 (.release 0)) ++ [.advance 1] ++
      List.replicate 4 (.advance 0)) (by decide)
  simp only [decide_eq_true_eq] at hp
  obtain ⟨hx, ha, h0, h1⟩ := hp
  exact ⟨past, s, h, hx, ha, h0, h1, h.reentrancy⟩

end VmHost.Monitor
