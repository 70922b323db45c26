import VmHost.Proofs.Monitor.Run

/-!
# Who holds what

`Held` links the mutexes to the points of the OS threads: the mutex of a park cell is held by exactly
the OS thread whose point says so, and the mutex of a monitor by the OS thread of its owner or by one
that has just given the monitor up. It holds in every state of a disciplined run (`Run.held`).

From it come the two frame facts on which all later invariants rest: no step changes a park cell or a
monitor whose mutex another OS thread holds (`Held.park_frame`, `Held.monitor_frame`).
-/
namespace VmHost.Monitor

open State Point

/-- Where an OS thread stands to the monitor of its operation, it does so rightly. -/
def State.Tied (s : State) (o : OsThread) : Prop :=
  match (s.point o).tie with
  | .loose => True
  | .outside m => (s.monitors.get m).owner ≠ some (s.who o)
  | .inside m => (s.monitors.get m).owner = some (s.who o)
  | .giving m => (s.monitors.get m).lock.holder = some o ∧ (s.monitors.get m).owner = none

/-- Mutexes, owners and points agree. -/
structure Held (home : Identity → OsThread) (s : State) : Prop where
  /-- In the middle of an operation on a monitor, an OS thread acts as one of its own identities. -/
  home_who : ∀ o, (s.point o).tie ≠ .loose → home (s.who o) = o
  cell : ∀ o j, (s.parks.get j).lock.holder = some o ↔ (s.point o).cell (s.who o) = some j
  tied : ∀ o, s.Tied o
  owned : ∀ m i, (s.monitors.get m).owner = some i →
    (s.monitors.get m).lock.holder = some (home i) ∧ 1 ≤ (s.monitors.get m).depth
  unowned : ∀ m, (s.monitors.get m).owner = none → (s.monitors.get m).depth = 0
  given : ∀ m o, (s.monitors.get m).lock.holder = some o → (s.monitors.get m).owner = none →
    (s.point o).tie = .giving m
  /-- A wait has a depth to come back to. -/
  saved : ∀ o w, (s.point o).wait? = some w → 1 ≤ w.saved

variable {home : Identity → OsThread} {s t : State} {l : Label} {o : OsThread} {m : MonitorId}

namespace Held

theorem outside (h : Held home s) (ho : (s.point o).tie = .outside m) :
    (s.monitors.get m).owner ≠ some (s.who o) := by
  have := h.tied o
  rwa [Tied, ho] at this

theorem inside (h : Held home s) (ho : (s.point o).tie = .inside m) :
    (s.monitors.get m).owner = some (s.who o) := by
  have := h.tied o
  rwa [Tied, ho] at this

theorem giving (h : Held home s) (ho : (s.point o).tie = .giving m) :
    (s.monitors.get m).lock.holder = some o ∧ (s.monitors.get m).owner = none := by
  have := h.tied o
  rwa [Tied, ho] at this

/-- An OS thread that owns a monitor in the middle of an operation holds its mutex. -/
theorem holder_of_inside (h : Held home s) (ho : (s.point o).tie = .inside m) :
    (s.monitors.get m).lock.holder = some o := by
  have := (h.owned m _ (h.inside ho)).1
  rwa [h.home_who o (by simp [ho])] at this

/-- An OS thread that passes the identity of the owner holds the mutex. -/
theorem holder_of_call (h : Held home s) {i : Identity} {c : Call}
    (hf : (Label.call o i c).Fits home) (hc : c.isNamed)
    (hi : (s.monitors.get m).owner = some i) : (s.monitors.get m).lock.holder = some o := by
  rw [(h.owned m i hi).1, hf hc]

end Held

theorem Call.Enters.isNamed {c : Call} {a : Reply} (h : c.Enters m a) : c.isNamed := by
  cases h <;> rfl

theorem Call.Notifies.isNamed {c : Call} {q rest : List Identity} (h : c.Notifies m q rest) :
    c.isNamed := by
  cases h <;> rfl

theorem wakes_actor {p q : Prop} (h : l = .advance o ∧ p ∨ l = .giveUp o ∧ q) :
    l.actor = some o := by
  rcases h with ⟨rfl, -⟩ | ⟨rfl, -⟩ <;> rfl

/-- A step moves no OS thread but the one that takes it. -/
theorem Transition.standing_other (ht : Transition s l t) (ho : l.actor ≠ some o) :
    t.point o = s.point o ∧ t.who o = s.who o := by
  cases ht with
  | wakes _ hl => have := wakes_actor hl; grind
  | _ => grind [Label.actor]

/-- The mutex of a monitor passes to nobody but the OS thread that takes the step. -/
theorem Transition.holder_of (ht : Transition s l t)
    (hh : (t.monitors.get m).lock.holder = some o) :
    (s.monitors.get m).lock.holder = some o ∨ l.actor = some o := by
  cases ht with
  | _ => grind [Label.actor, Mutex.free]

/-! ## Frames -/

theorem State.eq_of_monitor_ne {m' : MonitorId} {f : Monitor → Monitor}
    (ht : t.monitors = (s.onMonitor m' f).monitors) (h : t.monitors.get m ≠ s.monitors.get m) :
    m = m' := by
  refine Decidable.byContradiction fun e => ?_
  rw [ht, get_onMonitor, if_neg e] at h
  exact h rfl

theorem State.eq_of_park_ne {j j' : Identity} {f : Park → Park}
    (ht : t.parks = (s.onPark j' f).parks) (h : t.parks.get j ≠ s.parks.get j) : j = j' := by
  refine Decidable.byContradiction fun e => ?_
  rw [ht, get_onPark, if_neg e] at h
  exact h rfl

/-- A monitor that changes in a step is held by the OS thread that takes the step, or by nobody. -/
theorem Held.monitor_changes (h : Held home s) (hf : l.Fits home) (ht : Transition s l t)
    (hm : t.monitors.get m ≠ s.monitors.get m) :
    (s.monitors.get m).lock.holder = none ∨ (s.monitors.get m).lock.holder = l.actor := by
  cases ht with
  | nests _ hc hi _ =>
    obtain rfl := eq_of_monitor_ne rfl hm
    exact .inr (h.holder_of_call hf hc.isNamed hi)
  | unnests _ hi _ | quits _ hi _ =>
    obtain rfl := eq_of_monitor_ne rfl hm
    exact .inr (h.holder_of_call hf rfl hi)
  | enters _ hn | returns _ hn =>
    obtain rfl := eq_of_monitor_ne rfl hm
    exact .inl hn
  | leaves _ hh | yields _ hh =>
    obtain rfl := eq_of_monitor_ne rfl hm
    exact .inr hh
  | queues hp =>
    obtain rfl := eq_of_monitor_ne rfl hm
    exact .inr (h.holder_of_inside (by simp [hp, tie]))
  | notifies _ hc hi | notifiesNobody _ hc hi =>
    obtain rfl := eq_of_monitor_ne rfl hm
    exact .inr (h.holder_of_call hf hc.isNamed hi)
  | _ => exact absurd rfl hm

/-- No step changes a monitor whose mutex another OS thread holds. -/
theorem Held.monitor_frame (h : Held home s) (hf : l.Fits home) (ht : Transition s l t)
    (hh : (s.monitors.get m).lock.holder = some o) (ho : l.actor ≠ some o) :
    t.monitors.get m = s.monitors.get m := by
  refine Classical.byContradiction fun hm => ?_
  rcases h.monitor_changes hf ht hm with e | e
  · rw [hh] at e; cases e
  · rw [hh] at e; exact ho e.symm

/-- A park cell that changes in a step is held by the OS thread that takes the step, or by nobody. -/
theorem Held.park_changes (h : Held home s) (ht : Transition s l t) {j : Identity}
    (hj : t.parks.get j ≠ s.parks.get j) :
    (s.parks.get j).lock.holder = none ∨ (s.parks.get j).lock.holder = l.actor := by
  cases ht with
  | declines _ hn | queues _ hn | collects _ hn | flags _ hn | posts _ hn | asks _ hn =>
    obtain rfl := eq_of_park_ne rfl hj
    exact .inl hn
  | declined _ hh | parks _ hh | decides _ hh | delivers _ hh | delivered _ hh | posted _ hh
  | answers _ hh =>
    obtain rfl := eq_of_park_ne rfl hj
    exact .inr hh
  | clears hp | signals hp | rouses hp =>
    obtain rfl := eq_of_park_ne rfl hj
    exact .inr ((h.cell ..).mpr (by simp [hp, Point.cell]))
  | _ => exact absurd rfl hj

/-- No step changes a park cell whose mutex another OS thread holds. -/
theorem Held.park_frame (h : Held home s) (ht : Transition s l t) {j : Identity}
    (hh : (s.parks.get j).lock.holder = some o) (ho : l.actor ≠ some o) :
    t.parks.get j = s.parks.get j := by
  refine Classical.byContradiction fun hj => ?_
  rcases h.park_changes ht hj with e | e
  · rw [hh] at e; cases e
  · rw [hh] at e; exact ho e.symm

/-! ## What a step preserves -/

theorem Begins.isNamed {i : Identity} {c : Call} {p : Point} (hb : Begins s i c p)
    (hp : p.tie ≠ .loose) : c.isNamed := by
  cases hb <;> first | rfl | exact absurd rfl hp

theorem Begins.cell {i : Identity} {c : Call} {p : Point} (hb : Begins s i c p) :
    p.cell i = none := by
  cases hb <;> rfl

theorem Begins.wait? {i : Identity} {c : Call} {p : Point} (hb : Begins s i c p) :
    p.wait? = none := by
  cases hb <;> rfl

/-! ### The mutexes of park cells

The state `u` stands for `s` with changes to monitors and park cells; then an OS thread moves. -/

/-- The mutex of a park cell is held by exactly the OS thread whose point says so. -/
def State.Celled (s : State) : Prop :=
  ∀ o j, (s.parks.get j).lock.holder = some o ↔ (s.point o).cell (s.who o) = some j

section

variable {u : State} {i j : Identity} {p q : Point}

theorem State.Celled.place (h : s.Celled) (hu : u.threads = s.threads)
    (ho : ∀ k, (u.parks.get k).lock.holder = some o ↔ p.cell i = some k)
    (hn : ∀ o' k, o' ≠ o →
      ((u.parks.get k).lock.holder = some o' ↔ (s.parks.get k).lock.holder = some o')) :
    (u.place o i p).Celled := by
  intro o' k
  rw [parks_place, point_place, who_place]
  by_cases e : o' = o
  · rw [if_pos e, if_pos e, e]
    exact ho k
  · obtain ⟨hp, hw⟩ := standing_of_threads hu o'
    rw [if_neg e, if_neg e, hp, hw, hn o' k e]
    exact h o' k

/-- An OS thread goes on with the park cell that it holds, or with none. -/
theorem State.Celled.keep (h : s.Celled) (hp : s.point o = q) (hu : u.threads = s.threads)
    (hl : ∀ k, (u.parks.get k).lock = (s.parks.get k).lock)
    (hc : p.cell i = q.cell (s.who o)) : (u.place o i p).Celled := by
  subst hp
  refine h.place hu (fun k => ?_) (fun o' k _ => ?_)
  · rw [hl, hc]
    exact h o k
  · rw [hl]

/-- An OS thread that holds no park cell takes one. -/
theorem State.Celled.take (h : s.Celled) (hp : s.point o = q) (hu : u.threads = s.threads)
    (hj : (s.parks.get j).lock.holder = none)
    (hl : ∀ k, (u.parks.get k).lock = if k = j then ⟨some o⟩ else (s.parks.get k).lock)
    (hq : q.cell (s.who o) = none) (hc : p.cell i = some j) : (u.place o i p).Celled := by
  subst hp
  refine h.place hu (fun k => ?_) (fun o' k ho => ?_)
  · by_cases e : k = j
    · simp [hl, hc, e]
    · have hn : j ≠ k := fun h => e h.symm
      rw [hl, if_neg e, h o k, hq, hc]
      simp [hn]
  · by_cases e : k = j
    · have hn : o ≠ o' := fun h => ho h.symm
      simp [hl, e, hj, hn]
    · rw [hl, if_neg e]

/-- An OS thread releases the park cell that it holds. -/
theorem State.Celled.give (h : s.Celled) (hu : u.threads = s.threads)
    (hj : (s.parks.get j).lock.holder = some o)
    (hl : ∀ k, (u.parks.get k).lock = if k = j then .free else (s.parks.get k).lock)
    (hc : p.cell i = none) : (u.place o i p).Celled := by
  refine h.place hu (fun k => ?_) (fun o' k ho => ?_)
  · by_cases e : k = j
    · simp [hl, hc, e, Mutex.free]
    · rw [hl, if_neg e, hc, h o k, (h o j).mp hj]
      have hn : j ≠ k := fun h => e h.symm
      simp [hn]
  · by_cases e : k = j
    · have hn : o ≠ o' := fun h => ho h.symm
      simp [hl, e, hj, hn, Mutex.free]
    · rw [hl, if_neg e]

theorem State.lock_onPark {f : Park → Park} {k : Mutex} (hf : ∀ p, (f p).lock = k) (i : Identity) :
    ((s.onPark j f).parks.get i).lock = if i = j then k else (s.parks.get i).lock := by
  rw [get_onPark]
  split
  · exact hf _
  · rfl

end

theorem State.Celled.step (hs : s.Celled) (ht : Transition s l t) : t.Celled := by
  cases ht with
  | passes | crashes => exact hs
  | begins hr hb => exact hs.keep hr rfl (fun _ => rfl) hb.cell
  | @refused o i c r v hr _ =>
    exact hs.keep (u := s.violate o v) (p := .rest none) hr rfl (fun _ => rfl) rfl
  | nests hr | unnests hr | quits hr | notifiesNobody hr | notifies hr =>
    exact hs.keep hr rfl (fun _ => rfl) rfl
  | enters hp =>
    rcases hp with ⟨hp, -⟩ | ⟨hp, -⟩ <;> exact hs.keep hp rfl (fun _ => rfl) rfl
  | misses hp | leaves hp | yields hp | wakes hp | returns hp =>
    exact hs.keep hp rfl (fun _ => rfl) rfl
  | clears hp | signals hp | rouses hp =>
    exact hs.keep hp rfl (fun _ => s.onPark_same Park.lock fun _ => rfl) rfl
  | declines hp hn | queues hp hn | collects hp hn | flags hp hn | asks hp hn =>
    exact hs.take hp rfl hn (lock_onPark fun _ => rfl) rfl rfl
  | posts hp hn hq =>
    refine hs.take hp rfl hn (lock_onPark fun _ => rfl) rfl ?_
    rw [hq]
    split <;> rfl
  | declined hp hh | parks hp hh | decides hp hh | delivers hp hh | delivered hp hh | posted hp hh
  | answers hp hh =>
    exact hs.give rfl hh (lock_onPark fun _ => rfl) rfl

/-- Nobody takes a park cell twice. -/
theorem State.Celled.not_reached (h : s.Celled) {j : Identity}
    (hs : (s.point o).reach (s.who o) = some j) : (s.parks.get j).lock.holder ≠ some o := by
  intro hh
  have hj := (h o j).mp hh
  cases hp : s.point o <;> rw [hp] at hs hj <;> cases hs <;> cases hj

/-- Nobody releases a park cell that it does not hold. -/
theorem State.Celled.dropped (h : s.Celled) {j : Identity}
    (hs : (s.point o).drop (s.who o) = some j) : (s.parks.get j).lock.holder = some o := by
  refine (h o j).mpr ?_
  cases hp : s.point o <;> rw [hp] at hs <;> cases hs <;> rfl

theorem State.celled_start : State.start.Celled := by
  intro o j
  simp [Park.idle, Mutex.free, Point.cell]

namespace Held

theorem step_home_who (h : Held home s) (hf : l.Fits home) (ht : Transition s l t)
    (ho : (t.point o).tie ≠ .loose) : home (t.who o) = o := by
  by_cases ha : l.actor = some o
  · cases ht with
    | begins _ hb =>
      cases ha
      rw [point_place, if_pos rfl] at ho
      rw [who_place, if_pos rfl]
      exact hf (hb.isNamed ho)
    | quits =>
      cases ha
      rw [who_place, if_pos rfl]
      exact hf rfl
    | notifies _ hc =>
      cases ha
      rw [who_place, if_pos rfl]
      exact hf hc.isNamed
    | queues hp | yields hp | clears hp | parks hp | collects hp | decides hp | flags hp
    | signals hp | delivers hp =>
      cases ha
      rw [who_place, if_pos rfl]
      exact h.home_who o (by simp [hp, tie])
    | wakes hp hl =>
      cases Option.some.inj ((wakes_actor hl).symm.trans ha)
      rw [who_place, if_pos rfl]
      exact h.home_who o (by simp [hp, tie])
    | crashes => exact h.home_who o ho
    | posts _ _ hq =>
      cases ha
      rw [point_place, if_pos rfl, hq] at ho
      split at ho <;> exact absurd rfl ho
    | passes => cases ha
    | _ =>
      cases ha
      simp [tie] at ho
  · obtain ⟨hp, hw⟩ := ht.standing_other ha
    rw [hp] at ho
    rw [hw]
    exact h.home_who o ho

theorem step_saved (h : Held home s) (ht : Transition s l t) {w : Waiting}
    (ho : (t.point o).wait? = some w) : 1 ≤ w.saved := by
  by_cases ha : l.actor = some o
  · cases ht with
    | queues hp =>
      cases ha
      rw [point_place, if_pos rfl] at ho
      cases ho
      exact (h.owned _ _ (h.inside (by rw [hp]; rfl))).2
    | yields hp | clears hp | parks hp | collects hp | decides hp =>
      cases ha
      rw [point_place, if_pos rfl] at ho
      exact h.saved o w (by rw [hp]; exact ho)
    | wakes hp hl =>
      cases Option.some.inj ((wakes_actor hl).symm.trans ha)
      rw [point_place, if_pos rfl] at ho
      exact h.saved o w (by rw [hp]; exact ho)
    | begins _ hb =>
      cases ha
      rw [point_place, if_pos rfl, hb.wait?] at ho
      cases ho
    | posts _ _ hq =>
      cases ha
      rw [point_place, if_pos rfl, hq] at ho
      split at ho <;> cases ho
    | crashes => exact h.saved o w ho
    | passes => cases ha
    | _ =>
      cases ha
      simp [wait?] at ho
  · rw [(ht.standing_other ha).1] at ho
    exact h.saved o w ho

theorem step_owned (h : Held home s) (hf : l.Fits home) (ht : Transition s l t) {i : Identity}
    (hi : (t.monitors.get m).owner = some i) :
    (t.monitors.get m).lock.holder = some (home i) ∧ 1 ≤ (t.monitors.get m).depth := by
  have hs := h.owned m
  cases ht with
  | @enters o m' a hp hn =>
    have hw := h.home_who o (by rcases hp with ⟨hp, -⟩ | ⟨hp, -⟩ <;> simp [hp, tie])
    by_cases e : m = m'
    · subst e
      simp only [monitors_place, get_onMonitor, if_true, Option.some.injEq] at hi ⊢
      subst hi
      exact ⟨by rw [hw], Nat.le_refl 1⟩
    · simp only [monitors_place, get_onMonitor, if_neg e] at hi ⊢
      exact hs i hi
  | @returns o w n b hp hn =>
    have hw := h.home_who o (by simp [hp, tie])
    have hd := h.saved o w (by rw [hp]; rfl)
    by_cases e : m = w.monitor
    · subst e
      simp only [monitors_place, get_onMonitor, if_true, Option.some.injEq] at hi ⊢
      subst hi
      exact ⟨by rw [hw], hd⟩
    · simp only [monitors_place, get_onMonitor, if_neg e] at hi ⊢
      exact hs i hi
  | leaves hp _ | yields hp _ =>
    have := (h.giving (by rw [hp]; rfl)).2
    grind
  | nests | unnests | quits | queues | notifiesNobody | notifies => grind
  | _ => exact hs i hi

theorem step_unowned (h : Held home s) (ht : Transition s l t)
    (hn : (t.monitors.get m).owner = none) : (t.monitors.get m).depth = 0 := by
  have hs := h.unowned m
  cases ht with
  | nests | unnests | quits | enters | leaves | queues | yields | returns | notifiesNobody
  | notifies => grind
  | _ => exact hs hn

theorem step_given (h : Held home s) (hf : l.Fits home) (ht : Transition s l t)
    (hh : (t.monitors.get m).lock.holder = some o) (hn : (t.monitors.get m).owner = none) :
    (t.point o).tie = .giving m := by
  by_cases ha : l.actor = some o
  · have hg := h.given m o
    have ho := h.owned m
    cases ht with
    | nests | unnests | quits | enters | leaves | queues | yields | returns | notifiesNobody
    | notifies => grind [tie, Label.actor, Mutex.free]
    | begins hr | refused hr =>
      cases ha
      have := hg hh hn
      rw [hr] at this
      cases this
    | misses hp | declines hp | declined hp | clears hp | parks hp | collects hp | decides hp
    | flags hp | signals hp | delivers hp | delivered hp | posts hp | rouses hp | posted hp
    | asks hp | answers hp =>
      cases ha
      have := hg hh hn
      rw [hp] at this
      cases this
    | wakes hp hl =>
      cases Option.some.inj ((wakes_actor hl).symm.trans ha)
      have := hg hh hn
      rw [hp] at this
      cases this
    | crashes => exact hg hh hn
    | passes => cases ha
  · -- The mutex has not changed hands, so the monitor is the same as before.
    have hs := (ht.holder_of hh).resolve_right ha
    rw [h.monitor_frame hf ht hs ha] at hn
    rw [(ht.standing_other ha).1]
    exact h.given m o hs hn

/-- Where an OS thread stands after its own step, it does so rightly. -/
theorem step_tied_self (h : Held home s) (hf : l.Fits home) (ht : Transition s l t)
    (ha : l.actor = some o) : t.Tied o := by
  cases ht with
  | begins hr hb =>
    cases ha
    cases hb <;> simp_all [Tied, tie]
  | quits hr hi hd =>
    cases ha
    have := h.holder_of_call hf rfl hi
    simp [Tied, tie, this]
  | queues hp =>
    cases ha
    have := h.holder_of_inside (by rw [hp]; rfl)
    simp [Tied, tie, this]
  | notifies hr hc hi =>
    cases ha
    simp [Tied, tie, hi]
  | yields hp =>
    cases ha
    have := (h.giving (by rw [hp]; rfl)).2
    simp [Tied, tie, this]
  | clears hp | parks hp | collects hp | decides hp | flags hp | signals hp | delivers hp =>
    cases ha
    have := h.tied o
    simpa [Tied, tie, hp] using this
  | wakes hp hl =>
    cases Option.some.inj ((wakes_actor hl).symm.trans ha)
    have := h.tied o
    simpa [Tied, tie, hp] using this
  | @posts _ j p hp hn hq =>
    cases ha
    have hq : p.tie = .loose := by rw [hq]; split <;> rfl
    simp [Tied, hq]
  | passes => cases ha
  | crashes hc =>
    cases ha
    exact h.tied o
  | _ =>
    cases ha
    simp [Tied, tie]

theorem step_tied (h : Held home s) (hf : l.Fits home) (ht : Transition s l t) (o : OsThread) :
    t.Tied o := by
  by_cases ha : l.actor = some o
  · exact h.step_tied_self hf ht ha
  obtain ⟨hp, hw⟩ := ht.standing_other ha
  unfold Tied
  rw [hp, hw]
  split
  · trivial
  · rename_i m htie
    intro hi
    -- The new owner would be an identity of `o`, which holds the mutex then and held it before.
    have hh := (h.step_owned hf ht hi).1
    rw [h.home_who o (by simp [htie])] at hh
    rw [h.monitor_frame hf ht ((ht.holder_of hh).resolve_right ha) ha] at hi
    exact h.outside htie hi
  · rename_i m htie
    rw [h.monitor_frame hf ht (h.holder_of_inside htie) ha]
    exact h.inside htie
  · rename_i m htie
    rw [h.monitor_frame hf ht (h.giving htie).1 ha]
    exact h.giving htie

theorem step (h : Held home s) (hf : l.Fits home) (ht : Transition s l t) : Held home t where
  home_who _ := h.step_home_who hf ht
  cell := State.Celled.step h.cell ht
  tied := h.step_tied hf ht
  owned _ _ := h.step_owned hf ht
  unowned _ := h.step_unowned ht
  given _ _ := h.step_given hf ht
  saved _ _ := h.step_saved ht

theorem start : Held home .start := by
  constructor <;> intros <;>
    simp_all [Tied, tie, Point.cell, wait?, Monitor.free, Park.idle, Mutex.free]

/-- The only mutex operation that can fail takes the mutex of a monitor that the OS thread holds. -/
theorem seek_of_crashes (h : Held home s) {v : Violation} (hc : Crashes s o v) :
    v ≠ .lockNotHeld ∧
      ∃ m, (s.point o).seek = some m ∧ (s.monitors.get m).lock.holder = some o := by
  cases hc with
  | seek m hs hh => exact ⟨by simp, m, hs, hh⟩
  | reach j hs hh => exact (State.Celled.not_reached h.cell hs hh).elim
  | give m ht hh => exact absurd (h.giving ht).1 hh
  | drop j hs hh => exact absurd (State.Celled.dropped h.cell hs) hh

theorem not_crashes (h : Held home s) (ho : (s.point o).seek = none) {v : Violation} :
    ¬ Crashes s o v := by
  intro hc
  obtain ⟨-, m, hs, -⟩ := h.seek_of_crashes hc
  rw [ho] at hs
  cases hs

/-- An OS thread at a park cell goes on only if the cell is free. -/
theorem park_free (h : Held home s) (hs : s.step (.advance o) = some t) {j : Identity}
    (hr : (s.point o).reach (s.who o) = some j) : (s.parks.get j).lock.holder = none := by
  cases step_transition hs with
  | crashes hc =>
    refine absurd hc (h.not_crashes ?_)
    cases hp : s.point o <;> rw [hp] at hr <;> cases hr <;> rfl
  | enters hp => rcases hp with ⟨hp, -⟩ | ⟨hp, -⟩ <;> rw [hp] at hr <;> cases hr
  | _ => simp_all [reach]

/-- An OS thread at the mutex of a monitor goes on only if the mutex is free. -/
theorem monitor_free (hs : s.step (.advance o) = some t) (hv : t.violation = none)
    (hr : (s.point o).seek = some m) : (s.monitors.get m).lock.holder = none := by
  cases step_transition hs with
  | crashes => cases hv
  | enters hp hn =>
    rcases hp with ⟨hp, -⟩ | ⟨hp, -⟩ <;> rw [hp] at hr <;> cases hr
    exact hn
  | _ => simp_all [seek]

end Held

theorem Trace.celled {past : List Moment} (h : Trace past s) : s.Celled := by
  induction h with
  | start => exact celled_start
  | step l _ hs ih => exact ih.step (step_transition hs)

/-- Who holds what is settled in every state of a disciplined run. -/
theorem Run.held {past : List Moment} (h : Run home past s) : Held home s := by
  induction h with
  | start => exact .start
  | step l _ hf hs ih => exact ih.step hf (step_transition hs)

end VmHost.Monitor
