import VmHost.Proofs.Monitor.Stock
import VmHost.Proofs.Monitor.Wakeup

/-!
# A hand-over loses nothing and does not get stuck

Any number of producers and consumers hand items over through one slot; together, the consumers want
as many items as the producers have. `lossless` is about every world that they reach, in whatever
order they take their steps.

* What was put has been taken once and in the same order, but for what is in the slot, and no full
  slot was filled. This is `Stocked`.
* No wait was interrupted: every one that has returned says so (`waits_false`).
* Somebody has a step as long as somebody is not done. Where nobody had one, nobody would be in the
  monitor (`Staffed.free_of_stuck`), and whoever is not done would be asleep in the queue, because of
  what is in the slot (`Staffed.over_or_stalls`). But if the slot is empty, no producer is asleep, so
  that all items have been taken and nobody wants any more; and if it is full, no consumer is asleep,
  so that more items have been put than there are (`Stocked.not_stalls`).
* When everybody is done, all items have been taken and the monitor is as it was at first
  (`Staffed.finished`).
-/
namespace VmHost.Monitor.Handoff

open State Point

variable {roles : List Role} {w : World Table Worker} {o : OsThread} {past : List Moment}

/-! ## Who is done -/

/-- Only a worker that has left for good does nothing. -/
theorem client_stop {t : Table} {x : Worker} {r : Option Reply} :
    client t x r = .stop ↔ x.place = .gone := by
  unfold client
  cases x.place with
  | outside | gone => simp
  | looking =>
    rcases look_cases (t.note r) x with ⟨-, e⟩ | ⟨-, e⟩ | ⟨_, _, -, -, e⟩ | ⟨_, _, -, -, e⟩ <;>
      simp [e]
  | filling =>
    simp only [reduceCtorEq, iff_false]
    split <;> simp

theorem over_iff : w.isOver client o = true ↔
    (∃ r, w.monitors.point o = .rest r) ∧ (w.own.get o).place = .gone := by
  simp only [World.isOver_iff, client_stop, exists_and_right]

theorem Staffed.done_of_over (h : Staffed w) (ho : w.isOver client o = true) :
    (w.own.get o).role.Done := h.gone o (over_iff.mp ho).2

/-! ## Where nobody has a step -/

section

variable (h : Staffed w) (hr : Run id past w.monitors) (hs : w.Stuck client)
include h hr hs

/-- No park cell is held. -/
theorem Staffed.cell_of_stuck (j : Identity) : (w.monitors.parks.get j).lock.holder = none :=
  hr.trace.celled.free_of_stuck h.calm hs.monitors j

/-- Nobody is in the monitor. -/
theorem Staffed.free_of_stuck : (w.monitors.monitors.get monitor).lock.holder = none := by
  refine Option.eq_none_iff_forall_ne_some.mpr fun o hl => ?_
  obtain ⟨i, hi, rfl⟩ := hr.held.owned_of_stuck h.calm hs.monitors hl
  have hw := (h.within i).mpr hi
  cases hs.monitors.blocked h.calm i with
  | rests r hp =>
    rw [(over_iff.mp (hs.isOver h.calm hp)).2] at hw
    exact hw
  | overflowed hp | asleep _ _ hp =>
    rw [hp] at hw
    cases hq : (w.own.get i).place <;> rw [hq] at hw <;> cases hw
  | monitor m k hp =>
    cases hq : (w.own.get i).place <;> rw [hq] at hw <;> cases hr : w.monitors.point i <;>
      rw [hr] at hp hw <;> cases hp <;> cases hw
  | cell j k _ hk =>
    rw [h.cell_of_stuck hr hs] at hk
    cases hk

/-- Who is not done sleeps. -/
theorem Staffed.over_or_asleep (o : OsThread) : w.isOver client o = true ∨
    ∃ x since, w.monitors.point o = .sleeping x since ∧ x.monitor = monitor ∧
      (w.monitors.parks.get (w.monitors.who o)).signaled = false := by
  have hb := h.looking_or (o := o)
  cases hs.monitors.blocked h.calm o with
  | rests r hp => exact .inl (hs.isOver h.calm hp)
  | overflowed hp =>
    rw [hp] at hb
    exact ((hb nofun).elim And.right fun hg => nomatch hg.2).elim
  | asleep x since hp hn =>
    rw [hp] at hb
    obtain ⟨-, hx, -⟩ := (hb nofun).resolve_right nofun
    exact .inr ⟨x, since, hp, hx, hn⟩
  | monitor m k hp hk =>
    -- The only monitor that a worker can be on its way to is free.
    obtain rfl : m = monitor := by
      cases hq : w.monitors.point o <;> rw [hq] at hp hb <;> cases hp
      · exact ((hb nofun).resolve_right nofun).2
      · exact ((hb nofun).resolve_right nofun).2.1
    rw [h.free_of_stuck hr hs] at hk
    cases hk
  | cell j k _ hk =>
    rw [h.cell_of_stuck hr hs] at hk
    cases hk

/-- Who sleeps stands in the queue. -/
theorem Staffed.queued_of_stuck {x : Waiting} {since : Nat}
    (hp : w.monitors.point o = .sleeping x since) (hx : x.monitor = monitor)
    (hn : (w.monitors.parks.get (w.monitors.who o)).signaled = false) :
    o ∈ (w.monitors.monitors.get monitor).queue := by
  have hw : w.monitors.who o = o := hr.held.home_who o (by simp [hp, tie])
  have hq : w.monitors.phaseOf id o = .asleep monitor := by
    simp [phaseOf, hw, hp, Point.phase, hx]
  rcases hr.stands hq with hl | hf
  · simpa [Room.line, server_free (h.free_of_stuck hr hs), owed] using hl
  · -- Whoever is about to signal the event holds the park cell.
    exfalso
    rw [← hw] at hf
    rcases hr.alert.notified o (by rw [hp]; trivial) hf with he | ⟨o', m, others, ho⟩
    · rw [hn] at he
      cases he
    · have := (hr.held.cell o' (w.monitors.who o)).mpr (by rw [ho]; rfl)
      rw [h.cell_of_stuck hr hs] at this
      cases this

/-- Who is not done waits because of the slot. -/
theorem Staffed.over_or_stalls (o : OsThread) :
    w.isOver client o = true ∨ (w.own.get o).role.Stalls w.shared.slot := by
  refine (h.over_or_asleep hr hs o).imp_right ?_
  rintro ⟨x, since, hp, hx, hn⟩
  exact h.stalled o (.inr (h.queued_of_stuck hr hs hp hx hn))

end

/-! ## What the books say then -/

theorem Role.items_of_none {r : Role} (h : r.Done ∨ r.Stalls none) : r.items = 0 := by
  cases r with
  | consumer => rfl
  | producer items =>
    cases items with
    | nil => rfl
    | cons => rcases h with ⟨⟨⟩⟩ | ⟨⟨⟩⟩

theorem Role.quota_of_some {r : Role} {item : Nat} (h : r.Done ∨ r.Stalls (some item)) :
    r.quota = 0 := by
  cases r with
  | producer => rfl
  | consumer quota =>
    cases quota with
    | zero => rfl
    | succ => rcases h with ⟨⟨⟩⟩ | ⟨⟨⟩⟩

theorem Role.quota_of_stalls {r : Role} (h : r.Stalls none) : r.quota ≠ 0 := by
  cases r with
  | producer items => cases items <;> cases h
  | consumer quota => cases quota <;> simp_all [Role.Stalls, Role.quota]

/-- If everybody who is not done waits because of the slot, nobody does. -/
theorem Stocked.not_stalls (h : Stocked roles w) (he : (stock roles).card = demand roles)
    (hs : ∀ o, (w.own.get o).role.Done ∨ (w.own.get o).role.Stalls w.shared.slot) (o : OsThread) :
    ¬ (w.own.get o).role.Stalls w.shared.slot := by
  have hf := h.flow
  have hi := congrArg Multiset.card h.items
  have hq := h.quotas
  rw [Multiset.card_add, Multiset.coe_card] at hi
  cases hw : w.shared.slot with
  | none =>
    -- Nobody has items left, so that all of them have been taken.
    rw [hw] at hs hf
    have hz : w.own.total Worker.items = 0 := Row.total_eq_zero fun k => Role.items_of_none (hs k)
    have hl : w.shared.put.length = w.shared.taken.length := congrArg List.length hf
    rw [hz, Multiset.card_zero] at hi
    intro hn
    have := Row.le_total (f := Worker.quota) rfl w.own o
    have : (w.own.get o).quota ≠ 0 := Role.quota_of_stalls hn
    omega
  | some item =>
    -- Everybody has had enough, but an item is left.
    rw [hw] at hs hf
    have hz : w.own.total Worker.quota = 0 := Row.total_eq_zero fun k => Role.quota_of_some (hs k)
    have hl : w.shared.put.length = w.shared.taken.length + 1 := congrArg List.length hf
    omega

theorem Staffed.over_of_stuck (h : Staffed w) (hk : Stocked roles w)
    (he : (stock roles).card = demand roles) (hr : Run id past w.monitors) (hs : w.Stuck client)
    (o : OsThread) : w.isOver client o = true :=
  (h.over_or_stalls hr hs o).resolve_right <|
    hk.not_stalls he (fun k => (h.over_or_stalls hr hs k).imp_left h.done_of_over) o

/-! ## When everybody is done -/

/-- Everything has been handed over. -/
structure Finished (roles : List Role) (w : World Table Worker) : Prop where
  slot : w.shared.slot = none
  put : w.shared.put = w.shared.taken
  /-- All items have been taken, each one as often as there are. -/
  taken : w.shared.taken = stock roles
  /-- Every consumer has taken as many items as it was to take. -/
  quota : ∀ o, (w.own.get o).taken.length = (roles.map Role.quota).getD o 0
  /-- The mutex is free, nobody owns the monitor, and its queue is empty. -/
  monitor : w.monitors.monitors.get monitor = .free

/-- Where everybody has left, the monitor is as it was at first. -/
theorem Staffed.monitor_free (h : Staffed w) (hr : Run id past w.monitors)
    (ho : ∀ o, w.isOver client o = true) : w.monitors.monitors.get monitor = .free := by
  have hn : (w.monitors.monitors.get monitor).owner = none := by
    refine Option.eq_none_iff_forall_ne_some.mpr fun o hi => ?_
    have := (h.within o).mpr hi
    rw [(over_iff.mp (ho o)).2] at this
    exact this
  have hl : (w.monitors.monitors.get monitor).lock.holder = none := by
    refine Option.eq_none_iff_forall_ne_some.mpr fun o hl => ?_
    obtain ⟨r, hp⟩ := (over_iff.mp (ho o)).1
    have := hr.held.given monitor o hl hn
    rw [hp] at this
    cases this
  have hq : (w.monitors.monitors.get monitor).queue = [] := by
    refine List.eq_nil_iff_forall_not_mem.mpr fun i hi => ?_
    obtain ⟨he, -⟩ := (hr.orderly.mem_line monitor i).mp (List.mem_append_right _ hi)
    obtain ⟨r, hp⟩ := (over_iff.mp (ho i)).1
    have : w.monitors.phaseOf id i = .away := by
      simp [phaseOf, hp, Point.phase]
    rcases he with he | he <;> rw [phase_room, this] at he <;> cases he
  calc w.monitors.monitors.get monitor
    _ = ⟨⟨(w.monitors.monitors.get monitor).lock.holder⟩,
          (w.monitors.monitors.get monitor).owner, (w.monitors.monitors.get monitor).depth,
          (w.monitors.monitors.get monitor).queue⟩ := rfl
    _ = .free := by
      rw [hl, hr.held.unowned monitor hn, hn, hq]
      rfl

theorem Staffed.finished (h : Staffed w) (hk : Stocked roles w)
    (he : (stock roles).card = demand roles) (hr : Run id past w.monitors)
    (ho : ∀ o, w.isOver client o = true) : Finished roles w := by
  have hd := fun o => h.done_of_over (ho o)
  have hi : w.shared.put = stock roles := by
    have hz : w.own.total Worker.items = 0 :=
      Row.total_eq_zero fun o => Role.items_of_none (.inl (hd o))
    rw [← hk.items, hz, add_zero]
  have hz : ∀ o, (w.own.get o).quota = 0 := fun o => @Role.quota_of_some _ 0 (.inl (hd o))
  have hs : w.shared.slot = none := by
    have hf := congrArg List.length hk.flow
    have hc := congrArg Multiset.card hi
    have hq := hk.quotas
    rw [Row.total_eq_zero hz] at hq
    rw [Multiset.coe_card] at hc
    rw [List.length_append] at hf
    cases hw : w.shared.slot with
    | none => rfl
    | some item =>
      rw [hw, Option.toList_some, List.length_singleton] at hf
      omega
  have hp : w.shared.put = w.shared.taken := by
    rw [hk.flow, hs]
    rfl
  exact ⟨hs, hp, hp ▸ hi, fun o => by simpa [hz] using hk.quota o, h.monitor_free hr ho⟩

/-! ## The result -/

/-- Nobody who comes out of the monitor or of a wait says that it was interrupted. -/
theorem Posted.reply_of_rest (h : Posted w) {a : Reply}
    (hp : w.monitors.point o = .rest (some a)) : a = .done ∨ a = .bool false := by
  have ha := h.allowed o
  rw [hp] at ha
  cases hq : (w.own.get o).place <;> rw [hq] at ha
  case outside => cases ha
  case looking => exact ha.imp Option.some.inj Option.some.inj
  case filling =>
    exact ha.imp (fun e => Option.some.inj (Point.rest.inj e)) fun e =>
      Option.some.inj (Point.rest.inj e)
  case gone =>
    rcases ha with ha | ha | ha <;> cases ha
    exact .inl rfl

theorem waits_false (h : World.History client (start roles) past w) {newer older : List Moment}
    {x : Moment} {i : Identity} {m : MonitorId} {ms : Nat} {a : Reply}
    (e : past = newer ++ x :: older) (ha : answered (x :: older) = some (i, .wait m ms, a)) :
    a = .bool false := by
  subst e
  obtain ⟨u, hu⟩ := h.older
  obtain ⟨o, v, past, e, -, -, -, -, hc⟩ := (hu.run rfl).trace.wait_returns ha
  cases e
  have hp := Moment.answer?_eq_some_iff.mp ((answered_eq_some_iff rfl).mp ha).2
  refine ((staffed_of_history hu).reply_of_rest hp).resolve_left ?_
  rintro rfl
  rcases hc with ⟨-, ⟨⟩⟩ | ⟨_, _, _, -, -, -, ⟨⟩⟩

/-- Nothing is lost and nobody is stuck in a world that workers with these roles have reached. -/
structure Lossless (roles : List Role) (past : List Moment) (w : World Table Worker) : Prop extends
    Stocked roles w where
  /-- Every wait that has returned was not interrupted. -/
  waits : ∀ newer x older i m ms a, past = newer ++ x :: older →
    answered (x :: older) = some (i, .wait m ms, a) → a = .bool false
  unstuck : (∃ o, w.isOver client o = false) → ∃ o v, w.step client o = some v
  ends : (∀ o, w.isOver client o = true) → Finished roles w

/-- **Nothing is lost, and nobody gets stuck.** -/
theorem lossless (h : World.History client (start roles) past w)
    (he : (stock roles).card = demand roles) : Lossless roles past w where
  toStocked := stocked_of_history h
  waits _ _ _ _ _ _ _ e ha := waits_false h e ha
  unstuck := by
    rintro ⟨o, ho⟩
    by_contra hn
    have hs : w.Stuck client := fun o v hv => hn ⟨o, v, hv⟩
    rw [(staffed_of_history h).over_of_stuck (stocked_of_history h) he (h.run rfl) hs o] at ho
    cases ho
  ends := (staffed_of_history h).finished (stocked_of_history h) he (h.run rfl)

/-- A consumer, which waits for items, takes those of two producers, the second of which waits for
room. -/
theorem lossless_three : ∃ past w,
    World.History client (start [.consumer 2, .producer [3], .producer [4]]) past w ∧
      w.shared.taken = [4, 3] ∧ (∀ o < 3, w.isOver client o = true) ∧
      Lossless [.consumer 2, .producer [3], .producer [4]] past w := by
  have hs : World.Reachable client (start [.consumer 2, .producer [3], .producer [4]]) _ := .refl
  obtain ⟨past, h⟩ := World.reachable_iff.mp (hs.turns 3 45)
  exact ⟨past, _, h, by decide, by decide, lossless h rfl⟩

end VmHost.Monitor.Handoff
