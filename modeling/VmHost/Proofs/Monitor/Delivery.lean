import VmHost.Proofs.Monitor.Fifo

/-!
# Notifications that come too late

A thread that has slept reads its flags under its own park cell and leaves the queue under the mutex
of the monitor, later. In between it is still in the queue although it knows that it was not
notified. A notification may take it out all the same: it sets flags that nobody reads and wakes
nobody, and whoever stands next in the queue sleeps on (`notification_spent`).

`Run.delivery` says exactly when. A notification that sets the flags of a thread before the thread
reads them is read; one that does so afterwards is spent on a wait that has given up. That wait, and
no other one, finds itself out of the queue without a notification and leaves flags behind.
-/
namespace VmHost.Monitor

open State Point

/-- The wait has a notification that its thread has not read: its flags were set too late. -/
def Wait.isSpent (w : Wait) : Bool := w.read = some false && w.flagged ≠ 0

/-- With the event, a notification sets the flags of a thread that has read them already. -/
def Room.isLate (r : Room) : Event → Bool
  | .flagged m i => r.phase i = .decided m false
  | _ => false

/-- With the step, a notification sets the flags of a thread that has read them already. -/
def Moment.isLate (home : Identity → OsThread) (x : Moment) : Bool :=
  x.event?.any (x.before.room home).isLate

variable {home : Identity → OsThread} {s t : State} {l : Label} {o : OsThread} {i : Identity}
  {m : MonitorId} {past : List Moment}

theorem Room.Orderly.expects_of_dequeued {r r' : Room} (h : r.Orderly) {taken : List Identity}
    (hs : r.Step (.dequeued m taken) r') (hi : i ∈ taken) : r.Expects i m := by
  cases hs with
  | dequeued _ _ rest _ _ hq =>
    refine ((h.mem_line m i).mp ?_).1
    rw [line, hq]
    exact List.mem_append_right _ (List.mem_append_left _ hi)

/-! ## Each late notification spends one wait -/

theorem Wait.isSpent_learn {w : Wait} (hr : w.read = none) :
    (w.learn (w.flags.contains .notified)).isSpent = w.isSpent := by
  have hn : (w.learn (w.flags.contains .notified)).isSpent =
      (!decide (w.flagged ≠ 0) && decide (w.flagged ≠ 0)) := by
    rw [contains_flags hr]
    simp [Wait.isSpent, learn]
  rw [hn, Bool.not_and_self]
  simp [Wait.isSpent, hr]

/-- The flags of a thread that has read them show whether its wait is spent. -/
theorem Wait.flags_of_read {w : Wait} (hr : w.read ≠ none) :
    w.flags = if w.isSpent then .notified else .none := by
  have hf : Flags.none.union .notified = .notified := by decide
  have hn : Flags.none.union .none = .none := by decide
  cases h : w.read with
  | none => exact absurd h hr
  | some n =>
    cases n <;> by_cases hw : w.flagged = 0 <;> simp [Wait.flags, Wait.isSpent, h, hw, hf, hn]

namespace Chronicle

variable {r r' : Room} {ws : List Wait} {e : Event}

/-- The flags of a thread are set for its latest wait, which is spent if the thread has read them. -/
theorem countP_flagged (h : Chronicle r ws) (ho : r.Orderly) (hs : r.Step (.flagged m i) r') :
    (amend i Wait.flag ws).countP Wait.isSpent =
      ws.countP Wait.isSpent + if r.isLate (.flagged m i) then 1 else 0 := by
  cases hs with
  | flagged _ _ others hw ht =>
    have hi : i ∈ r.line m := by simp [Room.line, hw]
    rcases ((ho.mem_line m i).mp hi).1 with he | he
    · have hl : r.isLate (.flagged m i) = false := by simp [Room.isLate, he]
      rw [hl, countP_amend]
      · simp
      · intro w hw
        rw [h.current i m none (by rw [he]; rfl)] at hw
        cases hw
        rfl
    · have hl : r.isLate (.flagged m i) = true := by simp [Room.isLate, he]
      have hc := h.current i m (some false) (by rw [he]; rfl)
      rw [hl, countP_amend_succ hc]
      · simp
      · simp [Wait.isSpent, Room.record, hi]
      · simp [Wait.isSpent, Wait.flag, Room.record]

theorem countP_read (h : Chronicle r ws) {n : Bool} (hs : r.Step (.read i n) r') :
    (amend i (Wait.learn n) ws).countP Wait.isSpent = ws.countP Wait.isSpent := by
  cases hs with
  | read _ m hp =>
    have hc := h.current i m none (by rw [hp]; rfl)
    have hf := h.flags i
    rw [hc] at hf
    refine countP_amend fun w hw => ?_
    rw [hc] at hw
    cases hw
    rw [hf]
    exact Wait.isSpent_learn rfl

theorem countP_step (h : Chronicle r ws) (ho : r.Orderly) (hs : r.Step e r') :
    (e.record ws).countP Wait.isSpent =
      ws.countP Wait.isSpent + if r.isLate e then 1 else 0 := by
  cases e with
  | queued i m => simp [Event.record, Wait.isSpent, Wait.new, Room.isLate]
  | dequeued m taken => exact countP_foldl_amend fun _ => rfl
  | flagged m i => exact h.countP_flagged ho hs
  | signalled m i => exact countP_amend fun _ _ => rfl
  | read i n => exact h.countP_read hs
  | returned i m n => exact countP_amend fun _ _ => rfl

/-- Who reads that it was notified has been taken out of the queue and told. -/
theorem notified (h : Chronicle r ws) (ho : r.Orderly) {w : Wait} (hw : w ∈ ws)
    (hr : w.read = some true) : w.dequeued = 1 ∧ w.flagged = 1 := by
  rcases h.settled_or hw with hs | ⟨b, hp, e⟩
  · rcases hs.read with ⟨-, hd⟩ | hn
    · rw [hs.flagged]
      exact ⟨hd, hd⟩
    · rw [hr] at hn
      cases hn
  · rw [e] at hr ⊢
    obtain rfl : b = some true := hr
    have hl : w.who ∉ r.line w.monitor := fun hl => by
      rcases ((ho.mem_line ..).mp hl).1 with he | he <;> rw [he] at hp <;> cases hp
    have hq : w.who ∉ r.queue w.monitor := fun hq => hl (List.mem_append_right _ hq)
    simp [Room.record, hl, hq]

end Chronicle

/-- As many waits are spent as notifications came too late. -/
theorem Run.countP_spent (h : Run home past s) :
    (waits past).countP Wait.isSpent = past.countP (Moment.isLate home) := by
  induction h with
  | start => rfl
  | @step past s t l hr hf hs ih =>
    rw [List.countP_cons, ← ih]
    rcases (hr.held.simulates hf (step_transition hs)).event_or with ⟨e, he, hx⟩ | ⟨he, hx⟩
    · rw [waits_of_event he, hr.chronicle.countP_step hr.orderly hx, Moment.isLate, he]
      rfl
    · rw [waits_of_none he, Moment.isLate, he]
      rfl

/-! ## The result -/

/-- What becomes of notifications in a state that a run has reached. -/
structure Delivery (home : Identity → OsThread) (past : List Moment) (s : State) : Prop where
  /-- A notification takes out threads that are in the middle of a wait. They have not read their
  flags yet, or have read that they were not notified. -/
  taken : ∀ l m taken t, l.Fits home → s.step l = some t →
    Moment.event? ⟨s, l, t⟩ = some (.dequeued m taken) →
    ∀ i ∈ taken, s.phaseOf home i = .asleep m ∨ s.phaseOf home i = .decided m false
  /-- A thread reads that it was notified if its flags have been set for the wait. -/
  reads : ∀ o w t, s.point o = .waking w → s.step (.advance o) = some t →
    ∃ v b, latest (s.who o) (waits past) = some v ∧ v.read = none ∧
      t.point o = .deciding w (v.flagged ≠ 0) b
  /-- It has been taken out of the queue then. -/
  notified : ∀ w ∈ waits past, w.read = some true → w.dequeued = 1 ∧ w.flagged = 1
  /-- Whoever was taken out has read it on coming back, or the wait is spent. -/
  settled : ∀ w ∈ waits past, w.returned → w.dequeued = 1 → w.read = some true ∨ w.isSpent
  /-- Without a notification it finds itself in the queue, unless its wait is spent. It comes back
  with empty flags, unless its wait is spent. -/
  returns : ∀ o w n b t, s.point o = .reentering w n b → s.step (.advance o) = some t →
    t.violation = none → ∃ v, latest (s.who o) (waits past) = some v ∧ v.read = some n ∧
      (s.who o ∈ (s.monitors.get w.monitor).queue ↔ n = false ∧ v.isSpent = false) ∧
      (t.parks.get (s.who o)).flags = if v.isSpent then .notified else .none
  /-- The flags stay so up to the next wait. -/
  flags : ∀ i, s.phaseOf home i = .away →
    (s.parks.get i).flags = if (latest i (waits past)).any Wait.isSpent then .notified else .none
  /-- A late notification changes nothing for anybody else. -/
  spends : ∀ o m f others t, s.point o = .reaching m f others → s.step (.advance o) = some t →
    t.monitors = s.monitors ∧ ∀ j, j ≠ f → t.parks.get j = s.parks.get j
  count : (waits past).countP Wait.isSpent = past.countP (Moment.isLate home)
  /-- No wait is spent if and only if no notification comes too late. -/
  timely : (∀ w ∈ waits past, w.isSpent = false) ↔ ∀ x ∈ past, x.isLate home = false

/-- A thread that is about to come back. -/
theorem Run.returning (h : Run home past s) {w : Waiting} {n b : Bool}
    (hp : s.point o = .reentering w n b) (hn : (s.monitors.get w.monitor).lock.holder = none) :
    ∃ v, latest (s.who o) (waits past) = some v ∧ v.read = some n ∧
      (s.who o ∈ (s.monitors.get w.monitor).queue ↔ n = false ∧ v.isSpent = false) := by
  have hd : s.phaseOf home (s.who o) = .decided w.monitor n := by
    rw [h.held.phaseOf_who (by simp [hp, tie]), hp]
    rfl
  have hc := h.chronicle.current (s.who o) w.monitor (some n) (by rw [phase_room, hd]; rfl)
  refine ⟨_, hc, rfl, ?_⟩
  -- Nobody holds the mutex, so nobody is to be told.
  have hl : (s.room home).line w.monitor = (s.monitors.get w.monitor).queue := by
    simp [Room.line, server_free hn, owed]
  cases n with
  | false => simp [Wait.isSpent, Room.record, hl]
  | true =>
    have hm : s.who o ∉ (s.room home).line w.monitor := fun hm => by
      rcases ((h.orderly.mem_line ..).mp hm).1 with he | he <;> rw [phase_room, hd] at he <;> cases he
    rw [hl] at hm
    simp [hm]

/-- **Notifications come in time or spend a wait.** -/
theorem Run.delivery (h : Run home past s) : Delivery home past s where
  taken l m taken t hf hs he i hi := by
    have hx := h.held.simulates hf (step_transition hs)
    rw [Simulates, he] at hx
    exact h.orderly.expects_of_dequeued hx hi
  reads o w t hp hs := by
    obtain rfl := (Transition.collects hp (h.held.park_free hs (by rw [hp]; rfl))).eq_of_step hs
    have hd : s.phaseOf home (s.who o) = .asleep w.monitor := by
      rw [h.held.phaseOf_who (by simp [hp, tie]), hp]
      rfl
    have hc := h.chronicle.current (s.who o) w.monitor none (by rw [phase_room, hd]; rfl)
    have hf := h.chronicle.flags (s.who o)
    rw [hc, Option.elim_some, flags_room] at hf
    have hn : (s.parks.get (s.who o)).isNotified =
        decide (((s.room home).record (s.who o) w.monitor none).flagged ≠ 0) := by
      rw [Park.isNotified, hf]
      exact Wait.contains_flags rfl
    exact ⟨_, _, hc, rfl, by rw [point_place, if_pos rfl, hn]⟩
  notified _ hw hr := h.chronicle.notified h.orderly hw hr
  settled w hw hr hd := by
    rcases h.chronicle.settled_or hw with hs | ⟨b, -, e⟩
    · refine hs.read.imp And.left fun hn => ?_
      simp [Wait.isSpent, hn, hs.flagged, hd]
    · rw [e] at hr
      cases hr
  returns o w n b t hp hs hv := by
    have hn := Held.monitor_free hs hv (by rw [hp]; rfl)
    obtain rfl := (Transition.returns hp hn).eq_of_step hs
    obtain ⟨v, hl, hr, hq⟩ := h.returning hp hn
    refine ⟨v, hl, hr, hq, ?_⟩
    have hf := h.chronicle.flags (s.who o)
    rw [hl, Option.elim_some, Wait.flags_of_read (by rw [hr]; simp)] at hf
    simpa using hf
  flags i hi := by
    have hf := h.chronicle.flags i
    rw [flags_room] at hf
    rw [hf]
    cases hl : latest i (waits past) with
    | none => rfl
    | some v =>
      refine Wait.flags_of_read ?_
      rcases (h.chronicle.away i v hi hl).read with ⟨hr, -⟩ | hr <;> rw [hr] <;> simp
  spends o m f others t hp hs := by
    obtain rfl := (Transition.flags hp (h.held.park_free hs (by rw [hp]; rfl))).eq_of_step hs
    exact ⟨by simp, fun j hj => by simp [hj]⟩
  count := h.countP_spent
  timely := by
    have hw : (waits past).countP Wait.isSpent = 0 ↔ ∀ w ∈ waits past, w.isSpent = false := by simp
    have hx : past.countP (Moment.isLate home) = 0 ↔ ∀ x ∈ past, x.isLate home = false := by simp
    rw [← hw, ← hx, h.countP_spent]

/-- Two threads wait. The first one is interrupted and reads its flags; then it is notified. -/
def lateNotice : List Label :=
  Label.enter 0 0 ++ Label.doze 0 0 ++ Label.enter 1 0 ++ Label.doze 1 0 ++ Label.enter 2 0 ++
    Label.disturb 2 0 ++ [.advance 0, .advance 0, .advance 0] ++ Label.notifyFirst 2 0 ++
    [.call 2 2 (.release 0), .advance 2, .advance 0]

theorem delivery_late : ∃ past s, Run id past s ∧ past.countP (Moment.isLate id) = 1 ∧
    (waits past).map Wait.isSpent = [false, true] ∧ Delivery id past s := by
  obtain ⟨past, s, h, hp⟩ := exists_run id
    (fun past _ => past.countP (Moment.isLate id) = 1 ∧
      (waits past).map Wait.isSpent = [false, true])
    lateNotice (by decide)
  simp only [decide_eq_true_eq] at hp
  exact ⟨past, s, h, hp.1, hp.2, h.delivery⟩

/-- **Counterexample**: the notification has taken out the first thread, which comes back from its
wait as interrupted, with the flag left behind. The second one is asleep in the queue. -/
theorem notification_spent : ∃ past s, Run id past s ∧
    (∃ w ∈ waits past, w.who = 0 ∧ w.dequeued = 1 ∧ w.read = some false ∧ w.returned) ∧
    s.point 0 = .rest (some (.bool true)) ∧ (s.parks.get 0).flags = .notified ∧
    (s.monitors.get 0).queue = [1] ∧ s.point 1 = .sleeping ⟨0, 0, 1⟩ 0 ∧
    (s.parks.get 1).signaled = false := by
  obtain ⟨past, s, h, hp⟩ := exists_run id
    (fun past s => (∃ w ∈ waits past, w.who = 0 ∧ w.dequeued = 1 ∧ w.read = some false ∧
        w.returned) ∧
      s.point 0 = .rest (some (.bool true)) ∧ (s.parks.get 0).flags = .notified ∧
      (s.monitors.get 0).queue = [1] ∧ s.point 1 = .sleeping ⟨0, 0, 1⟩ 0 ∧
      (s.parks.get 1).signaled = false)
    lateNotice (by decide)
  simp only [decide_eq_true_eq] at hp
  exact ⟨past, s, h, hp⟩

end VmHost.Monitor
