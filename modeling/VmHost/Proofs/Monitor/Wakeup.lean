import VmHost.Proofs.Monitor.Fifo

/-!
# No lost wake-up

A wait gives the monitor up before it resets its event, so a notification or an interruption may be
under way before the thread sleeps. `Run.wakeup` says that none is lost: between the two critical
sections of a wait (`Point.Sleeps`), the event of a thread that was notified or interrupted is
signaled, and stays so, and its sleep can end.

The reset lies inside the first critical section of the own park cell, which whoever notifies or
interrupts has to enter. So at the end of it nobody has done so yet (`Alert.settles`); from then on
nobody resets the event.
-/
namespace VmHost.Monitor

open State Point

namespace Point

/-- In the first critical section of a wait, after the thread has queued itself. -/
def Settles : Point → Prop
  | .yielding _ | .clearing _ | .parking _ => True
  | _ => False

/-- Between the first and the second critical section of a wait. -/
def Sleeps : Point → Prop
  | .sleeping .. | .waking _ => True
  | _ => False

end Point

/-- Whoever sleeps is woken if there is a reason. -/
structure Alert (s : State) : Prop where
  settles : ∀ o, (s.point o).Settles →
    (s.parks.get (s.who o)).flags = .waiting ∧ (s.parks.get (s.who o)).interrupted = false
  waiting : ∀ o, (s.point o).Sleeps → (s.parks.get (s.who o)).isWaiting
  notified : ∀ o, (s.point o).Sleeps → (s.parks.get (s.who o)).isNotified →
    (s.parks.get (s.who o)).signaled ∨ ∃ o' m others, s.point o' = .signalling m (s.who o) others
  interrupted : ∀ o, (s.point o).Sleeps → (s.parks.get (s.who o)).interrupted →
    (s.parks.get (s.who o)).signaled ∨ ∃ o', s.point o' = .rousing (s.who o)

variable {home : Identity → OsThread} {s t : State} {l : Label} {o : OsThread} {i : Identity}
  {m : MonitorId} {past : List Moment}

theorem Point.Sleeps.tie (h : (s.point o).Sleeps) : (s.point o).tie ≠ .loose := by
  cases hp : s.point o <;> rw [hp] at h <;> simp_all [Point.Sleeps, Point.tie]

/-- Two OS threads in the middle of operations on monitors act as different identities. -/
theorem Held.who_ne (h : Held home s) {o' : OsThread} (ho : (s.point o).tie ≠ .loose)
    (ho' : (s.point o').tie ≠ .loose) (hne : o' ≠ o) : s.who o ≠ s.who o' := by
  intro e
  have := h.home_who o ho
  rw [e, h.home_who o' ho'] at this
  exact hne this

theorem Held.disturbs_flags (h : Held home s) (ht : Transition s l t) (hp : (s.point o).Sleeps)
    (ha : l.actor ≠ some o) : (t.parks.get (s.who o)).flags = (s.parks.get (s.who o)).flags ∨
      (t.parks.get (s.who o)).flags = (s.parks.get (s.who o)).flags.union .notified ∧
        ∃ o' m others, t.point o' = .signalling m (s.who o) others := by
  cases ht with
  | @flags o' m j others =>
    by_cases e : s.who o = j
    · exact .inr ⟨by simp [e], o', m, others, by simp [e]⟩
    · exact .inl (by simp [e])
  | @queues o' m ms hp' =>
    have hl : (s.point o').tie ≠ .loose := by simp [hp', Point.tie]
    have := h.who_ne hp.tie hl (by rintro rfl; exact ha rfl)
    exact .inl (by simp [this])
  | @collects o' w hp' =>
    have hl : (s.point o').tie ≠ .loose := by simp [hp', Point.tie]
    have := h.who_ne hp.tie hl (by rintro rfl; exact ha rfl)
    exact .inl (by simp [this])
  | _ => exact .inl (by grind)

theorem Transition.disturbs_interrupted (ht : Transition s l t) (i : Identity) :
    (t.parks.get i).interrupted = (s.parks.get i).interrupted ∨
      (t.parks.get i).interrupted = false ∨
        ((s.parks.get i).isWaiting → ∃ o, t.point o = .rousing i) := by
  cases ht with
  | @posts o' j p hp' hn hq =>
    by_cases e : i = j
    · subst e
      exact .inr (.inr fun hw => ⟨o', by simp [hq, hw]⟩)
    · exact .inl (by simp [e])
  | _ => grind

theorem Held.disturbs_signaled (h : Held home s) (ht : Transition s l t)
    (hp : (s.point o).Sleeps) (ha : l.actor ≠ some o) :
    (t.parks.get (s.who o)).signaled = (s.parks.get (s.who o)).signaled ∨
      (t.parks.get (s.who o)).signaled = true := by
  cases ht with
  | @clears o' w hp' =>
    have hl : (s.point o').tie ≠ .loose := by simp [hp', Point.tie]
    have := h.who_ne hp.tie hl (by rintro rfl; exact ha rfl)
    exact .inl (by simp [this])
  | _ => grind

/-- A notification that is about to signal an event does so next. -/
theorem Transition.signalling_or (ht : Transition s l t) {others : List Identity}
    (hp : s.point o = .signalling m i others) :
    t.point o = .signalling m i others ∨ (t.parks.get i).signaled = true := by
  by_cases ha : l.actor = some o
  · cases ht with
    | signals => grind [Label.actor]
    | _ => grind [Label.actor]
  · rw [(ht.standing_other ha).1]
    exact .inl hp

/-- An interruption that is about to signal an event does so next. -/
theorem Transition.rousing_or (ht : Transition s l t) (hp : s.point o = .rousing i) :
    t.point o = .rousing i ∨ (t.parks.get i).signaled = true := by
  by_cases ha : l.actor = some o
  · cases ht with
    | _ => grind [Label.actor]
  · rw [(ht.standing_other ha).1]
    exact .inl hp

namespace Alert

theorem step_settles (h : Held home s) (ha : Alert s) (ht : Transition s l t)
    (hp : (t.point o).Settles) :
    (t.parks.get (t.who o)).flags = .waiting ∧ (t.parks.get (t.who o)).interrupted = false := by
  by_cases hl : l.actor = some o
  · have hs := ha.settles o
    cases ht with
    | queues hq _ hi =>
      cases hl
      rw [who_place, if_pos rfl, parks_place, parks_onMonitor, get_onPark, if_pos rfl]
      exact ⟨rfl, hi⟩
    | yields hq =>
      cases hl
      rw [who_place, if_pos rfl]
      exact hs (by rw [hq]; trivial)
    | clears hq =>
      cases hl
      rw [who_place, if_pos rfl, parks_place, get_onPark, if_pos rfl]
      exact hs (by rw [hq]; trivial)
    | crashes => exact hs hp
    | begins hr hb =>
      cases hl
      rw [point_place, if_pos rfl] at hp
      cases hb <;> cases hp
    | posts _ _ hq =>
      cases hl
      rw [point_place, if_pos rfl, hq] at hp
      split at hp <;> cases hp
    | wakes _ hl' =>
      cases Option.some.inj ((wakes_actor hl').symm.trans hl)
      rw [point_place, if_pos rfl] at hp
      cases hp
    | passes => cases hl
    | _ =>
      cases hl
      simp [Point.Settles] at hp
  · obtain ⟨hp', hw⟩ := ht.standing_other hl
    rw [hp'] at hp
    have hc : (s.point o).cell (s.who o) = some (s.who o) := by
      cases hq : s.point o <;> rw [hq] at hp <;> simp_all [Point.Settles, Point.cell]
    rw [hw, h.park_frame ht ((h.cell o _).mpr hc) hl]
    exact ha.settles o hp

/-- With its own step, an OS thread falls asleep or sleeps on, and changes no flag or event. -/
theorem step_self (ht : Transition s l t) (hl : l.actor = some o) (hp : (t.point o).Sleeps) :
    ((∃ w, s.point o = .parking w) ∨ (s.point o).Sleeps) ∧ t.who o = s.who o ∧
      (t.parks.get (s.who o)).flags = (s.parks.get (s.who o)).flags ∧
      (t.parks.get (s.who o)).interrupted = (s.parks.get (s.who o)).interrupted ∧
      (t.parks.get (s.who o)).signaled = (s.parks.get (s.who o)).signaled := by
  cases ht with
  | parks hq =>
    cases hl
    refine ⟨.inl ⟨_, hq⟩, by simp, ?_, ?_, ?_⟩ <;> simp
  | wakes hq hl' =>
    cases Option.some.inj ((wakes_actor hl').symm.trans hl)
    exact ⟨.inr (by rw [hq]; trivial), by simp, rfl, rfl, rfl⟩
  | crashes => exact ⟨.inr hp, rfl, rfl, rfl, rfl⟩
  | begins hr hb =>
    cases hl
    rw [point_place, if_pos rfl] at hp
    cases hb <;> cases hp
  | posts _ _ hq =>
    cases hl
    rw [point_place, if_pos rfl, hq] at hp
    split at hp <;> cases hp
  | passes => cases hl
  | _ =>
    cases hl
    simp [Point.Sleeps] at hp

theorem step_waiting (h : Held home s) (ha : Alert s) (ht : Transition s l t)
    (hp : (t.point o).Sleeps) : (t.parks.get (t.who o)).isWaiting := by
  by_cases hl : l.actor = some o
  · obtain ⟨hq, hw, hf, -⟩ := step_self ht hl hp
    rw [hw, Park.isWaiting, hf]
    rcases hq with ⟨w, hq⟩ | hq
    · rw [(ha.settles o (by rw [hq]; trivial)).1]
      decide
    · exact ha.waiting o hq
  · obtain ⟨hp', hw⟩ := ht.standing_other hl
    rw [hp'] at hp
    have hi := ha.waiting o hp
    rw [hw, Park.isWaiting]
    rcases h.disturbs_flags ht hp hl with hf | ⟨hf, -⟩ <;> rw [hf]
    · exact hi
    · exact Flags.contains_union_left _ hi

/-- A signal under way stays so until the event is signaled. -/
theorem under_way (sends : Point → Prop)
    (hs : (s.parks.get i).signaled ∨ ∃ o, sends (s.point o))
    (hr : ∀ o, sends (s.point o) → sends (t.point o) ∨ (t.parks.get i).signaled = true)
    (hd : (t.parks.get i).signaled = (s.parks.get i).signaled ∨ (t.parks.get i).signaled = true) :
    (t.parks.get i).signaled ∨ ∃ o, sends (t.point o) := by
  rcases hs with hs | ⟨o, ho⟩
  · rw [hs, or_self] at hd
    exact .inl hd
  · rcases hr o ho with ho | hs
    · exact .inr ⟨o, ho⟩
    · exact .inl hs

theorem keep_notified (ha : Alert s) (ht : Transition s l t) (hp : (s.point o).Sleeps)
    (hn : (s.parks.get (s.who o)).isNotified)
    (hd : (t.parks.get (s.who o)).signaled = (s.parks.get (s.who o)).signaled ∨
      (t.parks.get (s.who o)).signaled = true) :
    (t.parks.get (s.who o)).signaled ∨
      ∃ o' m others, t.point o' = .signalling m (s.who o) others := by
  refine under_way (fun p => ∃ m others, p = .signalling m (s.who o) others) (ha.notified o hp hn)
    ?_ hd
  rintro o' ⟨m, others, ho⟩
  exact (ht.signalling_or ho).imp_left fun ho => ⟨m, others, ho⟩

theorem keep_interrupted (ha : Alert s) (ht : Transition s l t) (hp : (s.point o).Sleeps)
    (hi : (s.parks.get (s.who o)).interrupted)
    (hd : (t.parks.get (s.who o)).signaled = (s.parks.get (s.who o)).signaled ∨
      (t.parks.get (s.who o)).signaled = true) :
    (t.parks.get (s.who o)).signaled ∨ ∃ o', t.point o' = .rousing (s.who o) :=
  under_way (· = .rousing (s.who o)) (ha.interrupted o hp hi) (fun _ => ht.rousing_or) hd

theorem step_notified (h : Held home s) (ha : Alert s) (ht : Transition s l t)
    (hp : (t.point o).Sleeps) (hn : (t.parks.get (t.who o)).isNotified) :
    (t.parks.get (t.who o)).signaled ∨
      ∃ o' m others, t.point o' = .signalling m (t.who o) others := by
  by_cases hl : l.actor = some o
  · obtain ⟨hq, hw, hf, -, hs⟩ := step_self ht hl hp
    rw [hw, Park.isNotified, hf] at hn
    rw [hw]
    rcases hq with ⟨w, hq⟩ | hq
    · rw [(ha.settles o (by rw [hq]; trivial)).1] at hn
      cases hn
    · exact ha.keep_notified ht hq hn (.inl hs)
  · obtain ⟨hp', hw⟩ := ht.standing_other hl
    rw [hp'] at hp
    rw [hw] at hn ⊢
    rcases h.disturbs_flags ht hp hl with hf | ⟨-, ho⟩
    · rw [Park.isNotified, hf] at hn
      exact ha.keep_notified ht hp hn (h.disturbs_signaled ht hp hl)
    · exact .inr ho

theorem step_interrupted (h : Held home s) (ha : Alert s) (ht : Transition s l t)
    (hp : (t.point o).Sleeps) (hi : (t.parks.get (t.who o)).interrupted) :
    (t.parks.get (t.who o)).signaled ∨ ∃ o', t.point o' = .rousing (t.who o) := by
  by_cases hl : l.actor = some o
  · obtain ⟨hq, hw, -, hf, hs⟩ := step_self ht hl hp
    rw [hw, hf] at hi
    rw [hw]
    rcases hq with ⟨w, hq⟩ | hq
    · rw [(ha.settles o (by rw [hq]; trivial)).2] at hi
      cases hi
    · exact ha.keep_interrupted ht hq hi (.inl hs)
  · obtain ⟨hp', hw⟩ := ht.standing_other hl
    rw [hp'] at hp
    rw [hw] at hi ⊢
    rcases ht.disturbs_interrupted (s.who o) with hf | hf | ho
    · rw [hf] at hi
      exact ha.keep_interrupted ht hp hi (h.disturbs_signaled ht hp hl)
    · rw [hf] at hi
      cases hi
    · exact .inr (ho (ha.waiting o hp))

theorem step (h : Held home s) (ha : Alert s) (ht : Transition s l t) : Alert t where
  settles _ := ha.step_settles h ht
  waiting _ := ha.step_waiting h ht
  notified _ := ha.step_notified h ht
  interrupted _ := ha.step_interrupted h ht

theorem start : Alert .start := by
  constructor <;> intros <;> simp_all [Point.Settles, Point.Sleeps]

end Alert

theorem Run.alert (h : Run home past s) : Alert s := by
  induction h with
  | start => exact .start
  | step l hr _ hs ih => exact ih.step hr.held (step_transition hs)

/-! ## The result -/

/-- The event of a thread that sleeps is not reset by any step. -/
theorem Held.signaled_stays (h : Held home s) (ht : Transition s l t) (hp : (s.point o).Sleeps)
    (hs : (s.parks.get (s.who o)).signaled) : (t.parks.get (s.who o)).signaled := by
  by_cases hl : l.actor = some o
  · cases ht with
    | _ => grind [Point.Sleeps, Label.actor]
  · rcases h.disturbs_signaled ht hp hl with he | he
    · rw [he]
      exact hs
    · exact he

/-- An OS thread is to tell a thread of a notification, or in the middle of it. -/
def Point.Delivers (i : Identity) : Point → Prop
  | .reaching _ j others | .signalling _ j others | .departing _ j others => i ∈ j :: others
  | _ => False

/-- An identity is between the two critical sections of a wait. -/
def State.Asleep (s : State) (home : Identity → OsThread) (i : Identity) : Prop :=
  s.who (home i) = i ∧ (s.point (home i)).Sleeps

/-- No wake-up is lost in a state that a run has reached. -/
structure Wakeup (home : Identity → OsThread) (past : List Moment) (s : State) : Prop where
  /-- A notification has taken the current wait out of the queue and is done with it. -/
  notified : ∀ i w, s.Asleep home i → latest i (waits past) = some w → w.dequeued = 1 →
    (∀ o, ¬ (s.point o).Delivers i) → (s.parks.get i).signaled
  interrupted : ∀ i, s.Asleep home i → (s.parks.get i).interrupted →
    (s.parks.get i).lock.holder = none → (s.parks.get i).signaled
  /-- Even in the middle of an interruption, the event is signaled or will be with the next step of
  the OS thread that holds the park cell. -/
  rousing : ∀ i, s.Asleep home i → (s.parks.get i).interrupted → s.violation = none →
    (s.parks.get i).signaled ∨ ∃ o t, (s.parks.get i).lock.holder = some o ∧
      s.step (.advance o) = some t ∧ (t.parks.get i).signaled
  stays : ∀ i l t, s.Asleep home i → (s.parks.get i).signaled → s.step l = some t →
    (t.parks.get i).signaled
  /-- Once signaled, the event stays so for as long as the thread is asleep. -/
  kept : ∀ i later x earlier, past = later ++ x :: earlier → x.after.Asleep home i →
    (x.after.parks.get i).signaled → (∀ y ∈ later, y.after.Asleep home i) →
    (s.parks.get i).signaled
  /-- The sleep can end once the event is signaled. -/
  ends : ∀ i w since, s.who (home i) = i → s.point (home i) = .sleeping w since →
    (s.parks.get i).signaled → s.violation = none →
    ∃ t, s.step (.advance (home i)) = some t ∧ t.point (home i) = .waking w
  /-- Who is asleep stands in the queue, or has been notified, or will be told by an OS thread that
  holds the mutex of the monitor. -/
  stands : ∀ i w, s.Asleep home i → s.waitOf home i = some w →
    i ∈ (s.monitors.get w.monitor).queue ∨ (s.parks.get i).isNotified ∨
      ∃ o, (s.monitors.get w.monitor).lock.holder = some o ∧ i ∈ (s.point o).owed w.monitor

theorem State.Asleep.phase (h : s.Asleep home i) :
    ∃ w, s.waitOf home i = some w ∧ s.phaseOf home i = .asleep w.monitor := by
  obtain ⟨hw, hp⟩ := h
  rw [waitOf, phaseOf, if_pos hw, if_pos hw]
  cases hq : s.point (home i) <;> rw [hq] at hp <;> simp_all [Point.Sleeps, wait?, Point.phase]

/-- Who is asleep stands in line or has been notified. -/
theorem Run.stands (h : Run home past s) (hp : s.phaseOf home i = .asleep m) :
    i ∈ (s.room home).line m ∨ (s.parks.get i).isNotified := by
  cases hn : (s.parks.get i).isNotified with
  | true => exact .inr rfl
  | false => exact .inl ((h.orderly.mem_line m i).mpr ⟨.inl hp, hn⟩)

theorem Point.delivers_of_owed {p : Point} (h : i ∈ p.owed m) : p.Delivers i := by
  cases p <;> simp only [owed] at h <;> first | (split at h <;> simp_all [Delivers]) | cases h

theorem Run.signaled_of_dequeued (h : Run home past s) {w : Wait} (ha : s.Asleep home i)
    (hl : latest i (waits past) = some w) (hd : w.dequeued = 1)
    (ho : ∀ o, ¬ (s.point o).Delivers i) : (s.parks.get i).signaled := by
  obtain ⟨v, -, hp⟩ := ha.phase
  have hc := h.chronicle.current i v.monitor none (by rw [phase_room, hp]; rfl)
  rw [hl, Option.some.injEq] at hc
  subst hc
  have hn : (s.parks.get i).isNotified := by
    refine (h.stands hp).resolve_left fun hm => ?_
    rcases List.mem_append.mp hm with hm | hm
    · rw [owed_room, server] at hm
      split at hm
      · exact ho _ (delivers_of_owed hm)
      · cases hm
    · rw [queue_room] at hm
      simp [Room.record, hm] at hd
  obtain ⟨hw, hs⟩ := ha
  have := h.alert.notified (home i) hs
  rw [hw] at this
  refine (this hn).resolve_right ?_
  rintro ⟨o, m, others, hq⟩
  exact ho o (by rw [hq]; exact List.mem_cons_self)

theorem Run.kept (h : Run home past s) {later earlier : List Moment} {x : Moment}
    (e : past = later ++ x :: earlier) (hx : x.after.Asleep home i)
    (hs : (x.after.parks.get i).signaled) (hl : ∀ y ∈ later, y.after.Asleep home i) :
    s.Asleep home i ∧ (s.parks.get i).signaled := by
  induction later generalizing past s with
  | nil =>
    cases h with
    | start => cases e
    | step => cases e; exact ⟨hx, hs⟩
  | cons y later ih =>
    cases h with
    | start => cases e
    | step l hr hf hst =>
      obtain ⟨rfl, e'⟩ := List.cons.inj e
      obtain ⟨ha, hsi⟩ := ih hr e' fun y hy => hl y (List.mem_cons_of_mem _ hy)
      have := hr.held.signaled_stays (step_transition hst) ha.2
      rw [ha.1] at this
      exact ⟨hl _ List.mem_cons_self, this hsi⟩

/-- **No lost wake-up.** -/
theorem Run.wakeup (h : Run home past s) : Wakeup home past s where
  notified _ _ := h.signaled_of_dequeued
  interrupted i ha hi hn := by
    have := h.alert.interrupted (home i) ha.2
    rw [ha.1] at this
    refine (this hi).resolve_right ?_
    rintro ⟨o, ho⟩
    have := (h.held.cell o i).mpr (by rw [ho]; rfl)
    rw [hn] at this
    cases this
  rousing i ha hi hv := by
    have := h.alert.interrupted (home i) ha.2
    rw [ha.1] at this
    refine (this hi).imp_right ?_
    rintro ⟨o, ho⟩
    exact ⟨o, _, (h.held.cell o i).mpr (by rw [ho]; rfl), (Transition.rouses ho).step hv, by simp⟩
  stays i l t ha hs hst := by
    have := h.held.signaled_stays (step_transition hst) ha.2
    rw [ha.1] at this
    exact this hs
  kept i later x earlier e hx hs hl := (h.kept e hx hs hl).2
  ends i w since hi hp hs hv := by
    refine ⟨_, (Transition.wakes hp (.inl ⟨rfl, ?_⟩)).step hv, by simp⟩
    rwa [hi]
  stands i w ha hw := by
    obtain ⟨v, hv, hp⟩ := ha.phase
    obtain rfl : v = w := Option.some.inj (hv.symm.trans hw)
    rcases h.stands hp with hm | hn
    · rcases List.mem_append.mp hm with hm | hm
      · rw [owed_room, server] at hm
        split at hm
        · exact .inr (.inr ⟨_, by assumption, hm⟩)
        · cases hm
      · exact .inl hm
    · exact .inr (.inl hn)

/-- Two threads are asleep; the first one has been notified and the second one interrupted. -/
theorem wakeup_two : ∃ past s, Run id past s ∧
    s.point 0 = .sleeping ⟨0, 0, 1⟩ 0 ∧ (s.parks.get 0).isNotified ∧
    s.point 1 = .sleeping ⟨0, 0, 1⟩ 0 ∧ (s.parks.get 1).interrupted ∧ Wakeup id past s := by
  obtain ⟨past, s, h, hp⟩ := exists_run id
    (fun _ s => s.point 0 = .sleeping ⟨0, 0, 1⟩ 0 ∧ (s.parks.get 0).isNotified ∧
      s.point 1 = .sleeping ⟨0, 0, 1⟩ 0 ∧ (s.parks.get 1).interrupted)
    (Label.enter 0 0 ++ Label.doze 0 0 ++ Label.enter 1 0 ++ Label.doze 1 0 ++ Label.enter 2 0 ++
      Label.disturb 2 1 ++ Label.notifyFirst 2 0) (by decide)
  simp only [decide_eq_true_eq] at hp
  obtain ⟨hp0, hn, hp1, hi⟩ := hp
  exact ⟨past, s, h, hp0, hn, hp1, hi, h.wakeup⟩

end VmHost.Monitor
