import VmHost.Proofs.Monitor.Chronicle
import VmHost.Proofs.Monitor.Enabled

/-!
# Notifications are first in, first out, and exactly once

`Run.fifo` relates every queue of a disciplined run to the waits of the run: it lists, in the order
in which they were queued, the waits that no notification has taken out and that have not removed
themselves. A notification takes out the first one, or all of them, sets the flags and signals the
event of each of them once, and touches no other park cell.
-/
namespace VmHost.Monitor

open State Point

/-- Where a notification stands that has these threads still to tell. -/
def Point.tell (m : MonitorId) : List Identity → Point
  | [] => .rest (some .done)
  | i :: others => .reaching m i others

/-- The point lies in a notification on a monitor. -/
def Point.Notifies (m : MonitorId) : Point → Prop
  | .reaching m' .. | .signalling m' .. | .departing m' .. => m' = m
  | _ => False

variable {home : Identity → OsThread} {s t : State} {l : Label} {o : OsThread} {i : Identity}
  {m : MonitorId} {past : List Moment}

/-! ## What has become of a wait -/

/-- A wait is over, or its thread is in the middle of it. -/
theorem Chronicle.settled_or {r : Room} {ws : List Wait} (h : Chronicle r ws) {w : Wait}
    (hw : w ∈ ws) : w.Settled ∨
      ∃ b, (r.phase w.who).wait? = some (w.monitor, b) ∧ w = r.record w.who w.monitor b := by
  rcases h.older.latest_or hw with hl | hs
  · cases hp : r.phase w.who with
    | away => exact .inl (h.away _ w hp hl)
    | asleep m =>
      have hc := h.current w.who m none (by rw [hp]; rfl)
      rw [hl, Option.some.injEq] at hc
      obtain rfl : w.monitor = m := by rw [hc]; rfl
      exact .inr ⟨none, rfl, hc⟩
    | decided m n =>
      have hc := h.current w.who m (some n) (by rw [hp]; rfl)
      rw [hl, Option.some.injEq] at hc
      obtain rfl : w.monitor = m := by rw [hc]; rfl
      exact .inr ⟨some n, rfl, hc⟩
  · exact .inl hs

/-- No wait is taken out twice, nor told before it is taken out. -/
theorem Chronicle.once {r : Room} {ws : List Wait} (h : Chronicle r ws) {w : Wait} (hw : w ∈ ws) :
    w.dequeued ≤ 1 ∧ w.flagged ≤ w.dequeued ∧ w.signalled ≤ w.flagged := by
  rcases h.settled_or hw with hs | ⟨b, -, hw⟩
  · rw [hs.flagged, hs.signalled]
    exact ⟨hs.dequeued, Nat.le_refl _, Nat.le_refl _⟩
  · have hq : w.who ∈ r.queue w.monitor → w.who ∈ r.line w.monitor := List.mem_append_right _
    rw [hw]
    simp only [Room.record] at hq ⊢
    grind

/-- Who has been taken out has been told, unless a notification is under way. -/
theorem Chronicle.told {r : Room} {ws : List Wait} (h : Chronicle r ws) {w : Wait} (hw : w ∈ ws)
    (ho : r.owed w.monitor = []) (ht : r.telling w.monitor = none) :
    w.flagged = w.dequeued ∧ w.signalled = w.dequeued := by
  rcases h.settled_or hw with hs | ⟨b, -, hw⟩
  · exact ⟨hs.flagged, hs.signalled⟩
  · rw [hw]
    simp [Room.record, Room.line, ho, ht]

/-! ## The steps of a notification -/

theorem notify_step {f : Identity} {rest : List Identity}
    (hs : s.step (.call o i (.notify m)) = some t) (hv : t.violation = none)
    (hq : (s.monitors.get m).queue = f :: rest) :
    (∃ r, s.point o = .rest r) ∧
      t = (s.onMonitor m ({ · with queue := rest })).place o i (.reaching m f []) := by
  cases step_transition hs with
  | begins _ hb =>
    cases hb with
    | overflow _ _ _ hc => cases hc
  | refused => cases hv
  | nests _ hc => cases hc
  | notifiesNobody _ _ _ hn =>
    cases ‹Call.Notifies _ _ _ _›
    rw [hq] at hn
    cases hn
  | notifies hr hc _ hq' =>
    cases hc
    rw [hq] at hq'
    cases hq'
    exact ⟨⟨_, hr⟩, rfl⟩
  | wakes _ hl => rcases hl with ⟨⟨⟩, -⟩ | ⟨⟨⟩, -⟩

theorem notifyAll_step (hs : s.step (.call o i (.notifyAll m)) = some t)
    (hv : t.violation = none) :
    (∃ r, s.point o = .rest r) ∧
      t = (s.onMonitor m ({ · with queue := [] })).place o i (.tell m (s.monitors.get m).queue) := by
  cases step_transition hs with
  | begins _ hb =>
    cases hb with
    | overflow _ _ _ hc => cases hc
  | refused => cases hv
  | nests _ hc => cases hc
  | notifiesNobody hr hc _ hn =>
    cases hc
    rw [hn]
    exact ⟨⟨_, hr⟩, rfl⟩
  | notifies hr hc _ hq =>
    cases hc
    rw [hq, List.append_nil]
    exact ⟨⟨_, hr⟩, rfl⟩
  | wakes _ hl => rcases hl with ⟨⟨⟩, -⟩ | ⟨⟨⟩, -⟩

/-! ## The result -/

/-- Queues and notifications are in order in a state that a run has reached. -/
structure Fifo (home : Identity → OsThread) (past : List Moment) (s : State) : Prop where
  /-- A thread is in the queue of at most one monitor, and there once. -/
  once : ∀ m, (s.monitors.get m).queue.Nodup
  apart : ∀ m m' i, i ∈ (s.monitors.get m).queue → i ∈ (s.monitors.get m').queue → m = m'
  /-- A queue lists the waits that no notification has taken out and that have not removed
  themselves, in the order in which they were queued. -/
  queue : ∀ m, (s.monitors.get m).queue = names (Wait.isQueuedAt m) (waits past)
  dequeued : ∀ w ∈ waits past, w.dequeued ≤ 1 ∧ w.flagged ≤ w.dequeued ∧ w.signalled ≤ w.flagged
  /-- When no notification is under way, who was taken out has been told once. -/
  told : ∀ m, (∀ o, ¬ (s.point o).Notifies m) → ∀ w ∈ waits past, w.monitor = m →
    w.flagged = w.dequeued ∧ w.signalled = w.dequeued
  /-- One notification takes out the wait that was queued first, and no other. -/
  notify : ∀ o i m f rest t, (s.monitors.get m).queue = f :: rest →
    s.step (.call o i (.notify m)) = some t → t.violation = none →
    (t.monitors.get m).queue = rest ∧
    (∀ m', m' ≠ m → (t.monitors.get m').queue = (s.monitors.get m').queue) ∧
    t.parks = s.parks ∧ t.point o = .tell m [f] ∧
    ∃ newer w older, waits past = newer ++ w :: older ∧ w.who = f ∧ w.isQueuedAt m ∧
      (∀ v ∈ older, v.isQueuedAt m = false) ∧
      waits (⟨s, .call o i (.notify m), t⟩ :: past) = newer ++ w.dequeue :: older
  /-- A notification of all takes out each wait in the queue once, and no other. -/
  notifyAll : ∀ o i m t, s.step (.call o i (.notifyAll m)) = some t → t.violation = none →
    (t.monitors.get m).queue = [] ∧
    (∀ m', m' ≠ m → (t.monitors.get m').queue = (s.monitors.get m').queue) ∧
    t.parks = s.parks ∧ t.point o = .tell m (s.monitors.get m).queue ∧
    waits (⟨s, .call o i (.notifyAll m), t⟩ :: past) =
      (waits past).map fun w => if w.isQueuedAt m then w.dequeue else w
  /-- It then tells one thread after another and touches no other park cell. -/
  flags : ∀ o m f others t, s.point o = .reaching m f others → s.step (.advance o) = some t →
    (t.parks.get f).isNotified ∧ t.point o = .signalling m f others ∧
    ∀ j, j ≠ f → t.parks.get j = s.parks.get j
  signals : ∀ o m f others t, s.point o = .signalling m f others →
    s.step (.advance o) = some t →
    (t.parks.get f).signaled ∧ t.point o = .departing m f others ∧
    ∀ j, j ≠ f → t.parks.get j = s.parks.get j
  departs : ∀ o m f others t, s.point o = .departing m f others →
    s.step (.advance o) = some t →
    t.point o = .tell m others ∧ ∀ j, j ≠ f → t.parks.get j = s.parks.get j
  /-- A thread that comes back without a notification leaves the queue; the others stay as they
  are. -/
  withdraws : ∀ o w n b t, s.point o = .reentering w n b → s.step (.advance o) = some t →
    t.violation = none →
    (t.monitors.get w.monitor).queue =
      (if n then (s.monitors.get w.monitor).queue
        else (s.monitors.get w.monitor).queue.filter (· != s.who o)) ∧
    ∀ m, m ≠ w.monitor → (t.monitors.get m).queue = (s.monitors.get m).queue

/-- Nobody is to be told if no notification is under way. -/
theorem State.server_quiet (hn : ∀ o, ¬ (s.point o).Notifies m) :
    (s.server m).owed m = [] ∧ (s.server m).telling m = none := by
  have hp : ∀ p : Point, ¬ p.Notifies m → p.owed m = [] ∧ p.telling m = none := by
    intro p hp
    cases p <;> simp_all [Point.Notifies, owed, Point.telling]
  unfold server
  split
  · exact hp _ (hn _)
  · exact ⟨rfl, rfl⟩

theorem Run.older_not_queued (h : Run home past s) (m : MonitorId) :
    Older (fun w => w.isQueuedAt m = false) (waits past) :=
  h.chronicle.older.imp fun hs e => (hs e).isQueuedAt m

/-- **First in, first out, exactly once.** -/
theorem Run.fifo (h : Run home past s) : Fifo home past s where
  once m := (List.nodup_append.mp (h.orderly.nodup m)).2.1
  apart m m' i hi hi' :=
    h.orderly.line_unique (List.mem_append_right _ hi) (List.mem_append_right _ hi')
  queue := h.chronicle.order
  dequeued _ := h.chronicle.once
  told m hn w hw e := by
    subst e
    exact h.chronicle.told hw (server_quiet hn).1 (server_quiet hn).2
  notify o i m f rest t hq hs hv := by
    obtain ⟨⟨r, hr⟩, rfl⟩ := notify_step hs hv hq
    refine ⟨by simp, fun m' hm => by simp [hm], by simp, by simp [Point.tell], ?_⟩
    have hn := h.chronicle.order m
    rw [queue_room, hq] at hn
    obtain ⟨newer, w, older, hw, hf, hp, hold, ha⟩ :=
      names_eq_cons (f := Wait.dequeue) (h.older_not_queued m) hn.symm
    refine ⟨newer, w, older, hw, hf, hp, hold, ?_⟩
    rw [waits_of_event (e := .dequeued m [f]) (Moment.event?_place rfl hr)]
    exact ha
  notifyAll o i m t hs hv := by
    obtain ⟨⟨r, hr⟩, rfl⟩ := notifyAll_step hs hv
    refine ⟨by simp, fun m' hm => by simp [hm], by simp, by simp, ?_⟩
    rw [← foldl_amend_names (h.older_not_queued m), ← h.chronicle.order, queue_room]
    cases hq : (s.monitors.get m).queue with
    | nil => exact waits_of_none (Moment.event?_place rfl hr)
    | cons f others =>
      exact waits_of_event (e := .dequeued m (f :: others)) (Moment.event?_place rfl hr)
  flags o m f others t hp hs := by
    obtain rfl := (Transition.flags hp (h.held.park_free hs (by rw [hp]; rfl))).eq_of_step hs
    refine ⟨?_, by simp, fun j hj => by simp [hj]⟩
    simpa [Park.isNotified] using Flags.contains_union _ _
  signals o m f others t hp hs := by
    obtain rfl := (Transition.signals hp).eq_of_step hs
    exact ⟨by simp, by simp, fun j hj => by simp [hj]⟩
  departs o m f others t hp hs := by
    have hh : (s.parks.get f).lock.holder = some o := (h.held.cell o f).mpr (by rw [hp]; rfl)
    cases others with
    | nil =>
      obtain rfl := (Transition.delivered hp hh).eq_of_step hs
      exact ⟨by simp [Point.tell], fun j hj => by simp [hj]⟩
    | cons g others =>
      obtain rfl := (Transition.delivers hp hh).eq_of_step hs
      exact ⟨by simp [Point.tell], fun j hj => by simp [hj]⟩
  withdraws o w n b t hp hs hv := by
    have hn : (s.monitors.get w.monitor).queue.Nodup :=
      (List.nodup_append.mp (h.orderly.nodup w.monitor)).2.1
    obtain rfl := (Transition.returns hp (Held.monitor_free hs hv (by rw [hp]; rfl))).eq_of_step hs
    rw [← hn.erase_eq_filter]
    exact ⟨by simp, fun m hm => by simp [hm]⟩

/-- Of two threads that wait, a notification takes out the one that has waited longer. -/
theorem fifo_two : ∃ past s, Run id past s ∧ (s.monitors.get 0).queue = [1] ∧
    (waits past).map Wait.dequeued = [0, 1] ∧ Fifo id past s := by
  obtain ⟨past, s, h, hp⟩ := exists_run id
    (fun past s => (s.monitors.get 0).queue = [1] ∧ (waits past).map Wait.dequeued = [0, 1])
    (Label.enter 0 0 ++ Label.doze 0 0 ++ Label.enter 1 0 ++ Label.doze 1 0 ++ Label.enter 2 0 ++
      Label.notifyFirst 2 0) (by decide)
  simp only [decide_eq_true_eq] at hp
  exact ⟨past, s, h, hp.1, hp.2, h.fifo⟩

end VmHost.Monitor
