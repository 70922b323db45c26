import VmHost.Proofs.Monitor.Transition

/-!
# Which steps can be taken

The list of `Transition` is exact: every step on it can be taken as long as there is no violation
(`Transition.step`), so that `step_iff` describes the steps completely.
-/
namespace VmHost.Monitor

namespace State

variable {s : State} {o : OsThread} {next : State → State}

theorem lockMonitor_free {m : MonitorId} (h : (s.monitors.get m).lock.holder = none) :
    s.lockMonitor o m next = some (next (s.onMonitor m ({ · with lock := ⟨some o⟩ }))) := by
  simp [lockMonitor, Mutex.take, h]

theorem lockMonitor_held {m : MonitorId} (h : (s.monitors.get m).lock.holder = some o) :
    s.lockMonitor o m next =
      some (s.violate o (.unexpected "pthread_mutex_lock" Mutex.deadlockCode)) := by
  simp [lockMonitor, Mutex.take, h]

theorem lockPark_free {j : Identity} (h : (s.parks.get j).lock.holder = none) :
    s.lockPark o j next = some (next (s.onPark j ({ · with lock := ⟨some o⟩ }))) := by
  simp [lockPark, Mutex.take, h]

theorem lockPark_held {j : Identity} (h : (s.parks.get j).lock.holder = some o) :
    s.lockPark o j next =
      some (s.violate o (.unexpected "pthread_mutex_lock" Mutex.deadlockCode)) := by
  simp [lockPark, Mutex.take, h]

theorem unlockMonitor_held {m : MonitorId} (h : (s.monitors.get m).lock.holder = some o) :
    s.unlockMonitor o m next = next (s.onMonitor m ({ · with lock := .free })) := by
  simp [unlockMonitor, Mutex.release?, h]

theorem unlockMonitor_not_held {m : MonitorId} (h : (s.monitors.get m).lock.holder ≠ some o) :
    s.unlockMonitor o m next = s.violate o .lockNotHeld := by
  simp [unlockMonitor, Mutex.release?, h]

theorem unlockPark_held {j : Identity} (h : (s.parks.get j).lock.holder = some o) :
    s.unlockPark o j next = next (s.onPark j ({ · with lock := .free })) := by
  simp [unlockPark, Mutex.release?, h]

theorem unlockPark_not_held {j : Identity} (h : (s.parks.get j).lock.holder ≠ some o) :
    s.unlockPark o j next = s.violate o .lockNotHeld := by
  simp [unlockPark, Mutex.release?, h]

variable {i : Identity} {c : Call} {p : Point} {v : Violation} {m : MonitorId} {a : Reply}
  {q rest : List Identity}

theorem asOwner_owned {operation : String} (h : (s.monitors.get m).owner = some i) :
    (s.place o i p).asOwner o i m operation next = next (s.place o i p) := by
  simp [asOwner, isOwnedBy, h]

theorem asOwner_not_owned {operation : String} (h : (s.monitors.get m).owner ≠ some i) :
    (s.place o i p).asOwner o i m operation next =
      (s.place o i p).violate o (.notOwner operation) := by
  simp [asOwner, isOwnedBy, h]

theorem begin_begins (hb : Begins s i c p) : s.begin o i c = s.place o i p := by
  cases hb with
  | acquire m ho => simp [begin_acquire, isOwnedBy, ho, moveTo_eq_place, place_place]
  | tryAcquire m ho => simp [begin_tryAcquire, isOwnedBy, ho, moveTo_eq_place, place_place]
  | overflow _ m r hc ho hd =>
    have hd := Nat.not_lt.mpr hd
    cases hc <;> simp [begin_acquire, begin_tryAcquire, isOwnedBy, nest, ho, hd, moveTo_eq_place,
      place_place]
  | underflow m ho hd =>
    rw [begin_release, asOwner_owned ho]
    simp [unnest, hd, moveTo_eq_place, place_place]
  | wait m ms ho =>
    rw [begin_wait, asOwner_owned ho]
    simp [moveTo_eq_place, place_place]
  | depth m ho =>
    rw [begin_depth, asOwner_owned ho]
    simp [finish, moveTo_eq_place, place_place]
  | waiterCount m ho =>
    rw [begin_waiterCount, asOwner_owned ho]
    simp [finish, moveTo_eq_place, place_place]
  | dispose m ho hl =>
    simp [begin_dispose, ho, Mutex.isHeld, hl, finish, moveTo_eq_place, place_place]
  | interrupt j => simp [begin_interrupt, moveTo_eq_place, place_place]
  | query j q => simp [begin_query, moveTo_eq_place, place_place]

theorem begin_refused (hc : Refused s i c v) :
    s.begin o i c = (s.place o i (.rest none)).violate o v := by
  cases hc with
  | notOwner hn ho =>
    cases hn <;> simp only [begin_release, begin_wait, begin_notify, begin_notifyAll, begin_depth,
      begin_waiterCount] <;> exact asOwner_not_owned ho
  | owned m ho =>
    rw [begin_dispose, if_pos (Option.isSome_iff_ne_none.mpr ho)]
  | locked m ho hl =>
    have hl : (s.monitors.get m).lock.isHeld := Option.isSome_iff_ne_none.mpr hl
    rw [begin_dispose, if_neg (by simp [ho]), if_pos hl]

theorem begin_nests (hc : c.Enters m a) (ho : (s.monitors.get m).owner = some i)
    (hd : (s.monitors.get m).depth < depthLimit) :
    s.begin o i c =
      (s.onMonitor m fun x => { x with depth := x.depth + 1 }).place o i (.rest (some a)) := by
  cases hc <;> simp [begin_acquire, begin_tryAcquire, isOwnedBy, nest, ho, hd, finish,
    moveTo_eq_place, onMonitor_place, place_place]

theorem begin_notifies (hc : c.Notifies m q rest) (ho : (s.monitors.get m).owner = some i)
    (hq : (s.monitors.get m).queue = q ++ rest) :
    s.begin o i c =
      ((s.place o i (.rest none)).onMonitor m ({ · with queue := rest })).deliver o m q := by
  cases hc with
  | nobody | one =>
    rw [begin_notify, asOwner_owned ho]
    simp [hq]
  | all =>
    rw [begin_notifyAll, asOwner_owned ho]
    simp [hq]

theorem advance_crashes (hc : Crashes s o v) : s.advance o = some (s.violate o v) := by
  cases hc with
  | seek m hs hh =>
    cases hp : s.point o <;> rw [hp] at hs <;> cases hs <;>
      simp [advance, hp, lockMonitor_held hh]
  | reach j hs hh =>
    cases hp : s.point o <;> rw [hp] at hs <;> cases hs <;> simp [advance, hp, lockPark_held hh]
  | give m hs hh =>
    cases hp : s.point o <;> rw [hp] at hs <;> cases hs <;>
      simp [advance, hp, unlockMonitor_not_held hh]
  | drop j hs hh =>
    cases hp : s.point o <;> rw [hp] at hs <;> cases hs <;>
      simp [advance, hp, unlockPark_not_held hh]

theorem step_call {r : Option Reply} (hv : s.violation = none) (hr : s.point o = .rest r) :
    s.step (.call o i c) = some (s.begin o i c) := by
  simp [step, hv, hr]

theorem step_advance (hv : s.violation = none) : s.step (.advance o) = s.advance o := by
  simp [step, hv]

end State

open State

theorem Transition.step {s t : State} {l : Label} (ht : Transition s l t)
    (hv : s.violation = none) : s.step l = some t := by
  cases ht with
  | begins hr hb => rw [step_call hv hr, begin_begins hb]
  | refused hr hc => rw [step_call hv hr, begin_refused hc]
  | nests hr hc ho hd => rw [step_call hv hr, begin_nests hc ho hd]
  | unnests hr ho hd | quits hr ho hd =>
    rw [step_call hv hr, begin_release, asOwner_owned ho]
    simp [unnest, hd, finish, moveTo_eq_place, onMonitor_place, place_place]
  | notifiesNobody hr hc ho hq =>
    rw [step_call hv hr, begin_notifies hc ho hq]
    simp [deliver, finish, moveTo_eq_place, onMonitor_place, place_place]
  | notifies hr hc ho hq =>
    rw [step_call hv hr, begin_notifies hc ho hq]
    simp [deliver, moveTo_eq_place, onMonitor_place, place_place]
  | passes ms => simp [State.step, hv, elapse]
  | crashes hc => rw [step_advance hv, advance_crashes hc]
  | enters hp hf =>
    rcases hp with ⟨hp, rfl⟩ | ⟨hp, rfl⟩
    · simp [step_advance hv, advance, hp, lockMonitor_free hf, own, finish, moveTo_eq_place,
        onMonitor_onMonitor]
    · simp [step_advance hv, advance, hp, Mutex.take, hf, own, finish, moveTo_eq_place,
        onMonitor_onMonitor]
  | @misses o m hp hh =>
    obtain ⟨x, hx⟩ := Option.ne_none_iff_exists'.mp hh
    by_cases hxo : x = o <;>
      simp [step_advance hv, advance, hp, Mutex.take, hx, hxo, finish, moveTo_eq_place]
  | leaves hp hh =>
    simp [step_advance hv, advance, hp, unlockMonitor_held hh, finish, moveTo_eq_place]
  | declines hp hf hi | queues hp hf hi =>
    simp [step_advance hv, advance, hp, lockPark_free hf, enqueue, hi, moveTo_eq_place,
      onPark_onPark]
  | declined hp hh | posted hp hh | answers hp hh =>
    simp [step_advance hv, advance, hp, unlockPark_held hh, finish, moveTo_eq_place]
  | yields hp hh => simp [step_advance hv, advance, hp, unlockMonitor_held hh, moveTo_eq_place]
  | clears hp | signals hp | rouses hp => simp [step_advance hv, advance, hp, moveTo_eq_place]
  | parks hp hh | decides hp hh =>
    simp [step_advance hv, advance, hp, unlockPark_held hh, moveTo_eq_place]
  | wakes hp hl =>
    rcases hl with ⟨rfl, hs⟩ | ⟨rfl, hm, hn⟩
    · simp [step_advance hv, advance, hp, hs, moveTo_eq_place]
    · simp [State.step, hv, giveUp, hp, hm, hn, moveTo_eq_place]
  | collects hp hf =>
    simp [step_advance hv, advance, hp, lockPark_free hf, collect, Park.isNotified,
      moveTo_eq_place, onPark_onPark]
  | @returns o w n b hp hf =>
    cases n <;> simp [step_advance hv, advance, hp, lockMonitor_free hf, comeBack, own, finish,
      moveTo_eq_place, onMonitor_onMonitor]
  | flags hp hf =>
    simp [step_advance hv, advance, hp, lockPark_free hf, moveTo_eq_place, onPark_onPark]
  | delivers hp hh | delivered hp hh =>
    simp [step_advance hv, advance, hp, unlockPark_held hh, deliver, finish, moveTo_eq_place]
  | @posts o j p hp hf hq =>
    subst hq
    cases hw : (s.parks.get j).flags.contains .waiting <;>
      simp [step_advance hv, advance, hp, lockPark_free hf, interrupt, Park.isWaiting, hw,
        moveTo_eq_place, onPark_onPark]
  | asks hp hf => simp [step_advance hv, advance, hp, lockPark_free hf, ask_eq]

/-- The steps that can be taken are those of the list. -/
theorem step_iff {s t : State} {l : Label} :
    s.step l = some t ↔ s.violation = none ∧ Transition s l t :=
  ⟨fun h => ⟨step_violation h, step_transition h⟩, fun h => h.2.step h.1⟩

/-- A label leads to one state only. -/
theorem Transition.eq_of_step {s t u : State} {l : Label} (ht : Transition s l u)
    (hs : s.step l = some t) : t = u := by
  have hu := ht.step (step_violation hs)
  rw [hs] at hu
  exact Option.some.inj hu

end VmHost.Monitor
