import VmHost.Proofs.Monitor.Enabled
import VmHost.Proofs.Monitor.Holding

/-!
# Depth and queue belong to the holder of the mutex

The depth and the queue of a monitor are plain fields, guarded by its mutex. Within a step the mutex
is taken or released first and the fields come after, so an OS thread that does not hold the mutex
after its step must not have touched them. That it has neither read nor written them is said by
exchanging them: with any other depth and queue in that monitor (`State.withGuarded`) the same step
can be taken, and it does the same and leaves the exchanged fields alone.

* `Transition.withGuarded`: a step touches the fields of a monitor only if its code uses them
  (`State.Uses`).
* `Held.untouched`: under the discipline only the holder of the mutex uses them.
-/
namespace VmHost.Monitor

open State Point

/-- The state with another depth and another queue in one monitor. -/
def State.withGuarded (s : State) (m : MonitorId) (d : Nat) (q : List Identity) : State :=
  s.onMonitor m ({ · with depth := d, queue := q })

/-- What the call does for the owner of a monitor begins with the depth or the queue. -/
inductive Call.Uses : Call → MonitorId → Prop
  | enters {c m a} : c.Enters m a → Uses c m
  | release (m) : Uses (.release m) m
  | notifies {c m q rest} : c.Notifies m q rest → Uses c m
  | depth (m) : Uses (.depth m) m
  | waiterCount (m) : Uses (.waiterCount m) m

/-- The code of the step reads or writes the depth or the queue of a monitor. -/
inductive State.Uses (s : State) (m : MonitorId) : Label → Prop
  | call {o i c} : c.Uses m → (s.monitors.get m).owner = some i → Uses s m (.call o i c)
  | enters {o} : s.point o = .entering m ∨ s.point o = .trying m →
      (s.monitors.get m).lock.holder = none → Uses s m (.advance o)
  | queues {o ms} : s.point o = .queueing m ms → (s.parks.get (s.who o)).lock.holder = none →
      (s.parks.get (s.who o)).interrupted = false → Uses s m (.advance o)
  | returns {o w n b} : s.point o = .reentering w n b → w.monitor = m →
      (s.monitors.get m).lock.holder = none → Uses s m (.advance o)

variable {home : Identity → OsThread} {s t : State} {l : Label} {m : MonitorId} {d : Nat}
  {q : List Identity}

namespace State

@[simp] theorem owner_withGuarded (m' : MonitorId) :
    ((s.withGuarded m d q).monitors.get m').owner = (s.monitors.get m').owner := by
  simp only [withGuarded, get_onMonitor]; split <;> simp_all

@[simp] theorem lock_withGuarded (m' : MonitorId) :
    ((s.withGuarded m d q).monitors.get m').lock = (s.monitors.get m').lock := by
  simp only [withGuarded, get_onMonitor]; split <;> simp_all

theorem get_withGuarded {m' : MonitorId} (h : m' ≠ m) :
    (s.withGuarded m d q).monitors.get m' = s.monitors.get m' := by
  simp [withGuarded, h]

/-- The fields of one monitor may be exchanged before or after another one is changed. -/
theorem onMonitor_withGuarded {m' : MonitorId} (h : m' ≠ m) (f : Monitor → Monitor) :
    (s.withGuarded m d q).onMonitor m' f = (s.onMonitor m' f).withGuarded m d q := by
  simp only [withGuarded, onMonitor, Row.modify, Row.get_set, if_neg h, if_neg (Ne.symm h),
    Row.set_comm _ (Ne.symm h)]

theorem onPark_withGuarded (j : Identity) (f : Park → Park) :
    (s.withGuarded m d q).onPark j f = (s.onPark j f).withGuarded m d q := rfl

/-- The fields may be exchanged before or after the mutex is released. -/
theorem unlock_withGuarded (m' : MonitorId) :
    (s.withGuarded m d q).onMonitor m' ({ · with lock := .free }) =
      (s.onMonitor m' ({ · with lock := .free })).withGuarded m d q := by
  by_cases h : m' = m
  · subst h
    simp only [withGuarded, onMonitor_onMonitor]
  · exact onMonitor_withGuarded h _

end State

/-- A call that begins without touching a monitor reads its guarded fields as the owner only. -/
theorem Begins.withGuarded {i : Identity} {c : Call} {p : Point} (hb : Begins s i c p)
    (hm : c.Uses m → (s.monitors.get m).owner ≠ some i) : Begins (s.withGuarded m d q) i c p := by
  have e {m'} (hc : c.Uses m') (hi : (s.monitors.get m').owner = some i) :
      (s.withGuarded m d q).monitors.get m' = s.monitors.get m' :=
    get_withGuarded (by rintro rfl; exact hm hc hi)
  cases hb with
  | acquire m' ho => exact .acquire m' (by simpa using ho)
  | tryAcquire m' ho => exact .tryAcquire m' (by simpa using ho)
  | overflow _ m' r hc ho hd =>
    have e := e (.enters hc) ho
    exact .overflow c m' r hc (by rw [e]; exact ho) (by rw [e]; exact hd)
  | underflow m' ho hd =>
    have e := e (.release m') ho
    exact .underflow m' (by rw [e]; exact ho) (by rw [e]; exact hd)
  | wait m' ms ho => exact .wait m' ms (by simpa using ho)
  | depth m' ho =>
    have e := e (.depth m') ho
    rw [← e]
    exact .depth m' (by rw [e]; exact ho)
  | waiterCount m' ho =>
    have e := e (.waiterCount m') ho
    rw [← e]
    exact .waiterCount m' (by rw [e]; exact ho)
  | dispose m' ho hl => exact .dispose m' (by simpa using ho) (by simpa using hl)
  | interrupt j => exact .interrupt j
  | query j k => exact .query j k

theorem Refused.withGuarded {i : Identity} {c : Call} {v : Violation} (h : Refused s i c v) :
    Refused (s.withGuarded m d q) i c v := by
  cases h with
  | notOwner hn ho => exact .notOwner hn (by simpa using ho)
  | owned m' ho => exact .owned m' (by simpa using ho)
  | locked m' ho hl => exact .locked m' (by simpa using ho) (by simpa using hl)

theorem Crashes.withGuarded {o : OsThread} {v : Violation} (h : Crashes s o v) :
    Crashes (s.withGuarded m d q) o v := by
  cases h with
  | seek m' hs hh => exact .seek m' hs (by simpa using hh)
  | reach j hs hh => exact .reach j hs hh
  | give m' hs hh => exact .give m' hs (by simpa using hh)
  | drop j hs hh => exact .drop j hs hh

/-- A step is also one with other guarded fields in a monitor, unless its code uses them. -/
theorem Transition.withGuarded (ht : Transition s l t) (hm : ¬ s.Uses m l) :
    Transition (s.withGuarded m d q) l (t.withGuarded m d q) := by
  have hne {o i c m'} (hl : l = .call o i c) (hc : c.Uses m')
      (hi : (s.monitors.get m').owner = some i) : m' ≠ m := by
    rintro rfl
    exact hm (hl ▸ .call hc hi)
  have e := @get_withGuarded s m d q
  cases ht with
  | passes ms => exact .passes ms
  | begins hr hb => exact .begins hr (hb.withGuarded fun hc hi => hne rfl hc hi rfl)
  | refused hr hc => exact .refused hr hc.withGuarded
  | crashes hc => exact .crashes hc.withGuarded
  | @nests o i c r m' a hr hc ho hd =>
    have hne := hne rfl (.enters hc) ho
    have := Transition.nests (s := s.withGuarded m d q) hr hc (by rw [e hne]; exact ho)
      (by rw [e hne]; exact hd)
    rw [onMonitor_withGuarded hne] at this
    exact this
  | @unnests o i r m' x hr ho hd =>
    have hne := hne rfl (.release m') ho
    have := Transition.unnests (s := s.withGuarded m d q) hr (by rw [e hne]; exact ho)
      (by rw [e hne]; exact hd)
    rw [onMonitor_withGuarded hne] at this
    exact this
  | @quits o i r m' hr ho hd =>
    have hne := hne rfl (.release m') ho
    have := Transition.quits (s := s.withGuarded m d q) hr (by rw [e hne]; exact ho)
      (by rw [e hne]; exact hd)
    rw [onMonitor_withGuarded hne] at this
    exact this
  | @enters o m' a hp hn =>
    have hne : m' ≠ m := by
      rintro rfl
      exact hm (.enters (hp.imp And.left And.left) hn)
    have := Transition.enters (s := s.withGuarded m d q) hp (by simpa using hn)
    rw [onMonitor_withGuarded hne] at this
    exact this
  | misses hp hh => exact .misses hp (by simpa using hh)
  | leaves hp hh =>
    have := Transition.leaves (s := s.withGuarded m d q) hp (by simpa using hh)
    rw [unlock_withGuarded] at this
    exact this
  | declines hp hn hi => exact .declines hp hn hi
  | declined hp hh => exact .declined hp hh
  | @queues o m' ms hp hn hi =>
    have hne : m' ≠ m := by
      rintro rfl
      exact hm (.queues hp hn hi)
    have := Transition.queues (s := s.withGuarded m d q) hp hn hi
    rw [e hne, onPark_withGuarded, onMonitor_withGuarded hne] at this
    exact this
  | yields hp hh =>
    have := Transition.yields (s := s.withGuarded m d q) hp (by simpa using hh)
    rw [unlock_withGuarded] at this
    exact this
  | clears hp => exact .clears hp
  | parks hp hh => exact .parks hp hh
  | wakes hp hl => exact .wakes hp hl
  | collects hp hn => exact .collects hp hn
  | decides hp hh => exact .decides hp hh
  | @returns o w n b hp hn =>
    have hne : w.monitor ≠ m := by
      rintro rfl
      exact hm (.returns hp rfl hn)
    have := Transition.returns (s := s.withGuarded m d q) hp (by simpa using hn)
    rw [onMonitor_withGuarded hne] at this
    exact this
  | @notifiesNobody o i r c m' hr hc ho hq =>
    have hne := hne rfl (.notifies hc) ho
    have := Transition.notifiesNobody (s := s.withGuarded m d q) hr hc (by rw [e hne]; exact ho)
      (by rw [e hne]; exact hq)
    rw [onMonitor_withGuarded hne] at this
    exact this
  | @notifies o i r c m' first others rest hr hc ho hq =>
    have hne := hne rfl (.notifies hc) ho
    have := Transition.notifies (s := s.withGuarded m d q) hr hc (by rw [e hne]; exact ho)
      (by rw [e hne]; exact hq)
    rw [onMonitor_withGuarded hne] at this
    exact this
  | flags hp hn => exact .flags hp hn
  | signals hp => exact .signals hp
  | delivers hp hh => exact .delivers hp hh
  | delivered hp hh => exact .delivered hp hh
  | posts hp hn hq => exact .posts hp hn hq
  | rouses hp => exact .rouses hp
  | posted hp hh => exact .posted hp hh
  | asks hp hn => exact .asks hp hn
  | answers hp hh => exact .answers hp hh

theorem Transition.step_withGuarded (ht : Transition s l t) (hv : s.violation = none)
    (hm : ¬ s.Uses m l) : (s.withGuarded m d q).step l = some (t.withGuarded m d q) :=
  (ht.withGuarded hm).step (by rwa [State.withGuarded, violation_onMonitor])

theorem Call.Uses.isNamed {c : Call} (h : c.Uses m) : c.isNamed := by
  cases h with
  | enters h => exact h.isNamed
  | notifies h => exact h.isNamed
  | _ => rfl

/-- A call changes no mutex. -/
theorem Transition.lock_of_call {o : OsThread} {i : Identity} {c : Call}
    (ht : Transition s (.call o i c) t) :
    (t.monitors.get m).lock = (s.monitors.get m).lock := by
  cases ht with
  | begins | refused => rfl
  | nests | unnests | quits | notifiesNobody | notifies =>
    exact onMonitor_same s (·.lock) fun _ => rfl
  | wakes => rfl

theorem exists_reply {o : OsThread} (hp : s.point o = .entering m ∨ s.point o = .trying m) :
    ∃ a, s.point o = .entering m ∧ a = Reply.done ∨ s.point o = .trying m ∧ a = Reply.bool true := by
  rcases hp with hp | hp
  · exact ⟨_, .inl ⟨hp, rfl⟩⟩
  · exact ⟨_, .inr ⟨hp, rfl⟩⟩

/-- Guarded fields are used by a call, or before the monitor is given up for a wait; otherwise the
mutex has just been taken. -/
theorem State.Uses.holder_or (hu : s.Uses m l) (hs : s.step l = some t) :
    (∃ o i c, l = .call o i c ∧ c.Uses m ∧ (s.monitors.get m).owner = some i) ∨
    (∃ o ms w, l = .advance o ∧ s.point o = .queueing m ms ∧ t.point o = .yielding w ∧
      w.monitor = m ∧ (t.monitors.get m).lock = (s.monitors.get m).lock) ∨
    ∃ o, l.actor = some o ∧ (t.monitors.get m).lock.holder = some o := by
  cases hu with
  | call hc hi => exact .inl ⟨_, _, _, rfl, hc, hi⟩
  | @enters o hp hn =>
    refine .inr (.inr ⟨o, rfl, ?_⟩)
    obtain ⟨a, hp⟩ := exists_reply hp
    obtain rfl := (Transition.enters hp hn).eq_of_step hs
    simp
  | queues hp hn hi =>
    obtain rfl := (Transition.queues hp hn hi).eq_of_step hs
    exact .inr (.inl ⟨_, _, _, rfl, hp, (point_place ..).trans (if_pos rfl), rfl, by simp⟩)
  | returns hp hm hn =>
    subst hm
    obtain rfl := (Transition.returns hp hn).eq_of_step hs
    exact .inr (.inr ⟨_, rfl, by simp⟩)

/-- Under the discipline, who uses the guarded fields of a monitor holds its mutex. -/
theorem Held.holder_of_uses (h : Held home s) (hf : l.Fits home) (hs : s.step l = some t)
    (hu : s.Uses m l) : ∃ o, l.actor = some o ∧ (t.monitors.get m).lock.holder = some o := by
  rcases hu.holder_or hs with ⟨o, i, c, rfl, hc, hi⟩ | ⟨o, ms, w, rfl, hp, -, -, hl⟩ | hh
  · refine ⟨o, rfl, ?_⟩
    rw [(step_transition hs).lock_of_call]
    exact h.holder_of_call hf hc.isNamed hi
  · refine ⟨o, rfl, ?_⟩
    rw [hl]
    exact h.holder_of_inside (by rw [hp]; rfl)
  · exact hh

/-- An OS thread that does not hold the mutex of a monitor after its step has neither read nor
written the depth or the queue of the monitor in it. -/
theorem Held.untouched (h : Held home s) (hf : l.Fits home) (hs : s.step l = some t)
    (hm : ∀ o, l.actor = some o → (t.monitors.get m).lock.holder ≠ some o) :
    (s.withGuarded m d q).step l = some (t.withGuarded m d q) := by
  refine (step_transition hs).step_withGuarded (step_violation hs) fun hu => ?_
  obtain ⟨o, ho, hh⟩ := h.holder_of_uses hf hs hu
  exact hm o ho hh

end VmHost.Monitor
