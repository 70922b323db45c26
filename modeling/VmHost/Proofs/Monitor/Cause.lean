import VmHost.Proofs.Monitor.Episode
import VmHost.Proofs.Monitor.Wakeup
import VmHost.Proofs.Sync.Sleep

/-!
# Why a wait returns

A wait that returns `false` has a cause within itself (`Run.cause`): a notification has taken its
thread out of the queue since the call, or its time limit has run out since it fell asleep. What an
earlier wait has left behind, a late notification or a signaled event, is no cause, and neither is the
end of a sleep for a reason of the kernel's own.

The argument has two halves. `Honest` says of the state that an event is signaled during a sleep only
for a reason that the thread will find when it looks: the reset at the beginning of a wait cannot race
with a delivery that is still on its way, because both hold the park cell. `Accounts` says of the past
that a thread that has found no reason has slept until its time limit.
-/
namespace VmHost.Monitor

open State Point

/-! ## Causes -/

namespace Label

/-- Only a thread itself takes its pending interruption. -/
def TakesOwn (home : Identity → OsThread) : Label → Prop
  | .call o _ (.query j .takeInterrupted) => home j = o
  | _ => True

instance (home : Identity → OsThread) : DecidablePred (TakesOwn home) := fun l => by
  unfold TakesOwn
  split <;> infer_instance

/-- A notification of one or of all threads that wait for a monitor. -/
def Notifies (m : MonitorId) : Label → Prop
  | .call _ _ (.notify m') | .call _ _ (.notifyAll m') => m' = m
  | _ => False

instance (m : MonitorId) : DecidablePred (Notifies m) := fun l => by
  unfold Notifies
  split <;> infer_instance

end Label

/-- With the step a notification takes a thread out of the queue of a monitor. -/
def Moment.Dequeues (i : Identity) (m : MonitorId) (x : Moment) : Prop :=
  x.label.Notifies m ∧ i ∈ (x.before.monitors.get m).queue ∧ i ∉ (x.after.monitors.get m).queue

instance (i : Identity) (m : MonitorId) : DecidablePred (Moment.Dequeues i m) := fun x =>
  inferInstanceAs (Decidable (x.label.Notifies m ∧ _ ∧ _))

/-- With the step an OS thread falls asleep. -/
def Moment.FallsAsleep (o : OsThread) (w : Waiting) (x : Moment) : Prop :=
  x.before.point o = .parking w ∧ x.after.point o = .sleeping w x.after.now

/-- The time limit of a wait has run out since its OS thread fell asleep. -/
def Expired (o : OsThread) (w : Waiting) (past : List Moment) (now : Nat) : Prop :=
  w.ms ≠ 0 ∧ ∃ x ∈ episode o past, x.FallsAsleep o w ∧ x.after.now + w.ms ≤ now

/-- The time limit of a wait as its event gets it. -/
def Waiting.limit (w : Waiting) : Option Nat := if w.ms = 0 then none else some w.ms

variable {home : Identity → OsThread} {s t : State} {l : Label} {o : OsThread} {i j : Identity}
  {m : MonitorId} {past : List Moment} {x : Moment} {w : Waiting}

/-! ## No signal without a reason -/

/-- Events are signaled during a sleep for a reason only. -/
structure Honest (home : Identity → OsThread) (s : State) : Prop where
  parking : ∀ o w, s.point o = .parking w → (s.parks.get (s.who o)).signaled = false
  sleeps : ∀ o, (s.point o).Sleeps → (s.parks.get (s.who o)).signaled →
    (s.parks.get (s.who o)).isNotified ∨ (s.parks.get (s.who o)).interrupted
  signalling : ∀ o m j others, s.point o = .signalling m j others → (s.parks.get j).isNotified
  rousing : ∀ o j, s.point o = .rousing j → (s.parks.get j).interrupted
  asking : ∀ o j, s.point o = .asking j .takeInterrupted → home j = o

/-- What the park cell is like that an OS thread holds at the point. -/
def Point.Shows : Point → Park → Prop
  | .parking _, k => k.signaled = false
  | .signalling .., k => k.isNotified
  | .rousing _, k => k.interrupted
  | _, _ => True

/-- An event becomes signaled only by an OS thread that was about to do so. -/
theorem Transition.signaled_of (ht : Transition s l t) (h : (t.parks.get i).signaled) :
    (s.parks.get i).signaled ∨ t.parks.get i = { s.parks.get i with signaled := true } ∧
      ∃ o, (∃ m others, s.point o = .signalling m i others) ∨ s.point o = .rousing i := by
  cases ht with
  | @signals o m j others hp =>
    by_cases e : i = j
    · subst e
      exact .inr ⟨by simp, o, .inl ⟨m, others, hp⟩⟩
    · exact .inl (by simpa [e] using h)
  | @rouses o j hp =>
    by_cases e : i = j
    · subst e
      exact .inr ⟨by simp, o, .inr hp⟩
    · exact .inl (by simpa [e] using h)
  | _ => exact .inl (by grind)

namespace Honest

/-- A park cell is as the point of its holder says. -/
theorem shows (hh : Honest home s) (hc : (s.point o).cell (s.who o) = some j) :
    (s.point o).Shows (s.parks.get j) := by
  cases hp : s.point o <;> rw [hp] at hc <;> try trivial
  case parking w =>
    cases hc
    exact hh.parking o w hp
  case signalling m k others =>
    cases hc
    exact hh.signalling o m j others hp
  case rousing k =>
    cases hc
    exact hh.rousing o j hp

theorem step_shows (h : Held home s) (hh : Honest home s) (ht : Transition s l t)
    (hc : (t.point o).cell (t.who o) = some j) : (t.point o).Shows (t.parks.get j) := by
  by_cases hl : l.actor = some o
  · cases ht with
    | clears =>
      cases hl
      simp only [point_place, who_place, if_true, Point.cell, Option.some.injEq] at hc
      subst hc
      simp [Point.Shows]
    | flags =>
      cases hl
      simp only [point_place, if_true, Point.cell, Option.some.injEq] at hc
      subst hc
      simpa [Point.Shows, Park.isNotified] using Flags.contains_union _ _
    | posts _ _ hq =>
      cases hl
      subst hq
      simp only [point_place, if_true] at hc ⊢
      split at hc <;> cases hc <;> simp [Point.Shows, *]
    | crashes => exact hh.shows hc
    | begins _ hb =>
      cases hl
      rw [point_place, if_pos rfl]
      cases hb <;> trivial
    | wakes _ hl' =>
      cases Option.some.inj ((wakes_actor hl').symm.trans hl)
      simp [Point.Shows]
    | passes => cases hl
    | _ =>
      cases hl
      simp [Point.Shows]
  · obtain ⟨hp, hw⟩ := ht.standing_other hl
    rw [hp, hw] at hc
    rw [hp, h.park_frame ht ((h.cell o j).mpr hc) hl]
    exact hh.shows hc

/-- A pending interruption of a thread that sleeps is not cleared by another OS thread. -/
theorem keeps_interrupted (h : Held home s) (hh : Honest home s) (ht : Transition s l t)
    (hp : (s.point o).Sleeps) (hl : l.actor ≠ some o) (hi : (s.parks.get (s.who o)).interrupted) :
    (t.parks.get (s.who o)).interrupted := by
  cases ht with
  | @declines o' m ms hp' =>
    have hk : (s.point o').tie ≠ .loose := by simp [hp', tie]
    have := h.who_ne hp.tie hk (by rintro rfl; exact hl rfl)
    simpa [this] using hi
  | @collects o' w hp' =>
    have hk : (s.point o').tie ≠ .loose := by simp [hp', tie]
    have := h.who_ne hp.tie hk (by rintro rfl; exact hl rfl)
    simpa [this] using hi
  | @asks o' j q hp' =>
    by_cases e : s.who o = j
    · cases q with
      | takeInterrupted =>
        have ho := hh.asking o' j hp'
        rw [← e, h.home_who o hp.tie] at ho
        exact absurd (congrArg some ho.symm) hl
      | flags | isInterrupted => simpa [e, Query.keeps] using hi
    · simpa [e] using hi
  | _ => grind

theorem step_sleeps (h : Held home s) (hh : Honest home s) (ht : Transition s l t)
    (hp : (t.point o).Sleeps) (hs : (t.parks.get (t.who o)).signaled) :
    (t.parks.get (t.who o)).isNotified ∨ (t.parks.get (t.who o)).interrupted := by
  by_cases hl : l.actor = some o
  · obtain ⟨hq, hw, hf, hi, he⟩ := Alert.step_self ht hl hp
    rw [hw] at hs ⊢
    rw [he] at hs
    rw [Park.isNotified, hf, hi]
    rcases hq with ⟨w, hq⟩ | hq
    · rw [hh.parking o w hq] at hs
      cases hs
    · exact hh.sleeps o hq hs
  · obtain ⟨hp', hw⟩ := ht.standing_other hl
    rw [hp'] at hp
    rw [hw] at hs ⊢
    rcases ht.signaled_of hs with hs | ⟨he, o', ho⟩
    · rcases hh.sleeps o hp hs with hn | hi
      · refine .inl ?_
        rcases h.disturbs_flags ht hp hl with hf | ⟨hf, -⟩ <;> rw [Park.isNotified, hf]
        · exact hn
        · exact Flags.contains_union ..
      · exact .inr (hh.keeps_interrupted h ht hp hl hi)
    · rw [he]
      rcases ho with ⟨m, others, ho⟩ | ho
      · exact .inl (hh.signalling o' m _ others ho)
      · exact .inr (hh.rousing o' _ ho)

theorem step_asking (hh : Honest home s) (ho : l.TakesOwn home) (ht : Transition s l t)
    (hp : t.point o = .asking j .takeInterrupted) : home j = o := by
  by_cases hl : l.actor = some o
  · cases ht with
    | begins _ hb =>
      cases hl
      rw [point_place, if_pos rfl] at hp
      subst hp
      cases hb
      exact ho
    | crashes => exact hh.asking o j hp
    | posts _ _ hq =>
      cases hl
      rw [point_place, if_pos rfl, hq] at hp
      split at hp <;> cases hp
    | wakes _ hl' =>
      cases Option.some.inj ((wakes_actor hl').symm.trans hl)
      simp at hp
    | passes => cases hl
    | _ =>
      cases hl
      simp at hp
  · rw [(ht.standing_other hl).1] at hp
    exact hh.asking o j hp

theorem step (h : Held home s) (hh : Honest home s) (ho : l.TakesOwn home)
    (ht : Transition s l t) : Honest home t where
  parking o w hp := by
    have := hh.step_shows h ht (o := o) (j := t.who o) (by rw [hp]; rfl)
    rwa [hp] at this
  sleeps _ := hh.step_sleeps h ht
  signalling o m j others hp := by
    have := hh.step_shows h ht (o := o) (j := j) (by rw [hp]; rfl)
    rwa [hp] at this
  rousing o j hp := by
    have := hh.step_shows h ht (o := o) (j := j) (by rw [hp]; rfl)
    rwa [hp] at this
  asking _ _ := hh.step_asking ho ht

theorem start : Honest home .start := by
  constructor <;> intros <;> simp_all [Point.Sleeps]

end Honest

theorem Run.honest (h : Run home past s) (ho : ∀ x ∈ past, x.label.TakesOwn home) :
    Honest home s := by
  induction h with
  | start => exact .start
  | step l hr _ hs ih =>
    refine (ih fun x hx => ho x (List.mem_cons_of_mem _ hx)).step hr.held ?_ (step_transition hs)
    exact ho _ List.mem_cons_self

/-! ## What has become of the queue -/

/-- Who leaves a queue is taken out by a notification, or comes back from its wait by itself. -/
theorem Transition.leaves_queue (ht : Transition s l t) (hi : i ∈ (s.monitors.get m).queue)
    (hq : i ∉ (t.monitors.get m).queue) : Moment.Dequeues i m ⟨s, l, t⟩ ∨
      ∃ o w n b, l.actor = some o ∧ s.who o = i ∧ s.point o = .reentering w n b := by
  cases ht with
  | @notifies o j r c m' first others rest _ hc _ hq' =>
    refine .inl ⟨?_, hi, hq⟩
    have e : m' = m := by
      refine Decidable.byContradiction fun e => hq ?_
      rw [monitors_place, get_onMonitor, if_neg fun h => e h.symm]
      exact hi
    cases hc <;> exact e
  | @returns o w n b hp =>
    refine .inr ⟨o, w, n, b, rfl, ?_, hp⟩
    refine Decidable.byContradiction fun e => hq ?_
    have hne : i ≠ s.who o := fun h => e h.symm
    simp only [monitors_place, get_onMonitor]
    split
    · rename_i em
      subst em
      cases n
      · exact (List.mem_erase_of_ne hne).mpr hi
      · exact hi
    · exact hi
  | _ => exact absurd hi (by grind)

/-- An OS thread in the middle of a wait has queued itself with its step, or was in the middle of the
same wait before. -/
theorem Transition.waits_on (ht : Transition s l t) (ha : l.actor = some o)
    (hw : (t.point o).wait? = some w) : t.who o = s.who o ∧
      (s.who o ∈ (t.monitors.get w.monitor).queue ∨
        (s.point o).wait? = some w ∧
          ∀ m, (t.monitors.get m).queue = (s.monitors.get m).queue) := by
  cases ht with
  | queues =>
    cases ha
    simp only [point_place, if_true, wait?, Option.some.injEq] at hw
    subst hw
    simp
  | yields hp =>
    cases ha
    simp only [point_place, if_true, wait?, Option.some.injEq] at hw
    subst hw
    exact ⟨by simp, .inr ⟨by rw [hp]; rfl, fun _ => s.onMonitor_same Monitor.queue fun _ => rfl⟩⟩
  | clears hp | parks hp | collects hp | decides hp =>
    cases ha
    simp only [point_place, if_true, wait?, Option.some.injEq] at hw
    subst hw
    exact ⟨by simp, .inr ⟨by rw [hp]; rfl, fun _ => rfl⟩⟩
  | wakes hp hl =>
    cases Option.some.inj ((wakes_actor hl).symm.trans ha)
    simp only [point_place, if_true, wait?, Option.some.injEq] at hw
    subst hw
    exact ⟨by simp, .inr ⟨by rw [hp]; rfl, fun _ => rfl⟩⟩
  | begins _ hb =>
    cases ha
    rw [point_place, if_pos rfl, hb.wait?] at hw
    cases hw
  | posts _ _ hq =>
    cases ha
    rw [point_place, if_pos rfl, hq] at hw
    split at hw <;> cases hw
  | crashes => exact ⟨rfl, .inr ⟨hw, fun _ => rfl⟩⟩
  | passes => cases ha
  | _ =>
    cases ha
    simp [wait?] at hw

/-- Who waits is in the queue, or has been taken out by a notification since it called. -/
theorem Run.queued_or_dequeued (h : Run home past s) (hw : s.waitOf home i = some w) :
    i ∈ (s.monitors.get w.monitor).queue ∨
      ∃ x ∈ episode (home i) past, x.Dequeues i w.monitor := by
  induction h with
  | start =>
    rw [waitOf, point_start] at hw
    split at hw <;> cases hw
  | @step past s t l hr hf hs ih =>
    have ht := step_transition hs
    obtain ⟨hi, hp⟩ := waitOf_eq_some_iff.mp hw
    by_cases ha : l.actor = some (home i)
    · obtain ⟨he, hq | ⟨hp', hq⟩⟩ := ht.waits_on ha hp
      · rw [he] at hi
        rw [hi] at hq
        exact .inl hq
      · have hx : Moment.calls (home i) ⟨s, l, t⟩ = false :=
          ht.calls_eq_false fun r hr => by rw [hr] at hp'; cases hp'
        rw [hq]
        refine (ih (waitOf_eq_some_iff.mpr ⟨he.symm.trans hi, hp'⟩)).imp_right ?_
        rintro ⟨x, hm, hd⟩
        exact ⟨x, mem_episode_cons hm hx, hd⟩
    · obtain ⟨hp', hw'⟩ := ht.standing_other ha
      rw [hp'] at hp
      rw [hw'] at hi
      have hx : Moment.calls (home i) ⟨s, l, t⟩ = false :=
        ht.calls_eq_false fun r hr => by rw [hr] at hp; cases hp
      rcases ih (waitOf_eq_some_iff.mpr ⟨hi, hp⟩) with hq | ⟨x, hm, hd⟩
      · by_cases hq' : i ∈ (t.monitors.get w.monitor).queue
        · exact .inl hq'
        · rcases ht.leaves_queue hq hq' with hd | ⟨o, v, n, b, hl, ho, hb⟩
          · refine .inr ⟨_, ?_, hd⟩
            rw [episode_of_not_calls hx]
            exact List.mem_cons_self
          · have hh := hr.held.home_who o (by simp [hb, tie])
            rw [ho] at hh
            exact absurd (hh ▸ hl) ha
      · exact .inr ⟨x, mem_episode_cons hm hx, hd⟩

/-! ## What a thread has to show for its return -/

/-- What the past has to show for an OS thread in a wait: since when it sleeps, that it was woken for
a reason, or that its time limit has run out. -/
def State.Accounts (s : State) (o : OsThread) (past : List Moment) : Prop :=
  match s.point o with
  | .sleeping w since => since ≤ s.now ∧
      ∃ x ∈ episode o past, x.FallsAsleep o w ∧ x.after.now = since
  | .waking w => (s.parks.get (s.who o)).signaled ∨ Expired o w past s.now
  | .deciding w false false | .reentering w false false => Expired o w past s.now
  | _ => True

theorem Transition.now_le (ht : Transition s l t) : s.now ≤ t.now := by
  cases ht with
  | passes ms => exact Nat.le_add_right _ _
  | _ => exact Nat.le_refl _

theorem Expired.mono {n k : Nat} (h : Expired o w past n) (hx : x.calls o = false) (hk : n ≤ k) :
    Expired o w (x :: past) k := by
  obtain ⟨hm, y, hy, hf, hn⟩ := h
  exact ⟨hm, y, mem_episode_cons hy hx, hf, Nat.le_trans hn hk⟩

/-- An OS thread that stays where it is has the same to show, if its event stays signaled. -/
theorem State.Accounts.mono (ha : s.Accounts o past) (hx : x.calls o = false)
    (hp : t.point o = s.point o) (hn : s.now ≤ t.now)
    (hs : (s.point o).Sleeps → (s.parks.get (s.who o)).signaled →
      (t.parks.get (t.who o)).signaled) : t.Accounts o (x :: past) := by
  unfold State.Accounts at ha ⊢
  rw [hp]
  cases hq : s.point o with
  | sleeping w since =>
    rw [hq] at ha
    obtain ⟨hl, y, hy, hf⟩ := ha
    exact ⟨Nat.le_trans hl hn, y, mem_episode_cons hy hx, hf⟩
  | waking w =>
    rw [hq] at ha hs
    exact ha.imp (hs trivial) fun he => he.mono hx hn
  | deciding w n b | reentering w n b =>
    rw [hq] at ha
    cases n <;> cases b <;> first | trivial | exact ha.mono hx hn
  | _ => trivial

/-- The step of another OS thread leaves an OS thread with the same to show. -/
theorem Held.accounts_other (h : Held home s) (ht : Transition s l t) (hl : l.actor ≠ some o)
    (ha : s.Accounts o past) : t.Accounts o (⟨s, l, t⟩ :: past) := by
  obtain ⟨hp, hw⟩ := ht.standing_other hl
  refine ha.mono ?_ hp ht.now_le fun hq hs => ?_
  · rw [Bool.eq_false_iff, Ne, Moment.calls_iff]
    rintro ⟨i, c, rfl⟩
    exact hl rfl
  · rw [hw]
    exact h.signaled_stays ht hq hs

/-- Its own step leaves an OS thread with something to show for where it stands: whoever finds no
reason although its event was signaled would have found one. -/
theorem Honest.accounts_self (h : Honest home s) (ht : Transition s l t) (hl : l.actor = some o)
    (ha : s.Accounts o past) : t.Accounts o (⟨s, l, t⟩ :: past) := by
  unfold State.Accounts at ha
  cases ht with
  | parks hq =>
    cases hl
    simp only [State.Accounts, point_place, if_true]
    exact ⟨Nat.le_refl _, _, List.mem_cons_self, ⟨hq, by simp⟩, rfl⟩
  | @wakes _ w since _ hq hl' =>
    cases Option.some.inj ((wakes_actor hl').symm.trans hl)
    simp only [State.Accounts, point_place, if_true, who_place]
    rcases hl' with ⟨rfl, hs⟩ | ⟨rfl, hm, hn⟩
    · exact .inl hs
    · rw [hq] at ha
      obtain ⟨-, y, hy, hf, hy'⟩ := ha
      exact .inr ⟨hm, y, mem_episode_cons hy rfl, hf, by rw [hy']; exact hn⟩
  | @collects _ w hq hn =>
    cases hl
    simp only [State.Accounts, point_place, if_true]
    rw [hq] at ha
    cases hn : (s.parks.get (s.who o)).isNotified <;>
      cases hi : (s.parks.get (s.who o)).interrupted <;> try trivial
    refine (ha.resolve_left fun hs => ?_).mono rfl (Nat.le_refl _)
    have := h.sleeps o (by rw [hq]; trivial) hs
    simp [hn, hi] at this
  | @decides _ w n b hq =>
    cases hl
    simp only [State.Accounts, point_place, if_true]
    rw [hq] at ha
    cases n <;> cases b <;> first | trivial | exact ha.mono rfl (Nat.le_refl _)
  | crashes =>
    cases hl
    exact State.Accounts.mono ha rfl rfl (Nat.le_refl _) fun _ hs => hs
  | begins _ hb =>
    cases hl
    simp only [State.Accounts, point_place, if_true]
    cases hb <;> trivial
  | posts _ _ hq =>
    cases hl
    subst hq
    simp only [State.Accounts, point_place, if_true]
    cases (s.parks.get _).isWaiting <;> trivial
  | passes => cases hl
  | _ =>
    cases hl
    simp [State.Accounts]

theorem Run.accounts (h : Run home past s) (ho : ∀ x ∈ past, x.label.TakesOwn home)
    (o : OsThread) : s.Accounts o past := by
  induction h with
  | start => simp [State.Accounts]
  | @step past s t l hr hf hs ih =>
    have ho' : ∀ x ∈ past, x.label.TakesOwn home := fun x hx => ho x (List.mem_cons_of_mem _ hx)
    have ht := step_transition hs
    by_cases hl : l.actor = some o
    · exact (hr.honest ho').accounts_self ht hl (ih ho')
    · exact hr.held.accounts_other ht hl (ih ho')

/-! ## The result -/

/-- Waits return for a reason, as far as a run has come. -/
structure Cause (home : Identity → OsThread) (past : List Moment) (s : State) : Prop where
  /-- A notification has taken the thread out of the queue since the call, or the time limit has run
  out since the thread fell asleep. -/
  returns : ∀ i m ms, answered past = some (i, .wait m ms, .bool false) →
    (∃ x ∈ episode (home i) past, x.Dequeues i m) ∨
      ∃ saved, Expired (home i) ⟨m, ms, saved⟩ past s.now
  untimed : ∀ i m, answered past = some (i, .wait m 0, .bool false) →
    ∃ x ∈ episode (home i) past, x.Dequeues i m
  /-- A thread that goes to sleep has left behind what remained of its earlier waits. -/
  fresh : ∀ o w, s.point o = .parking w → (s.parks.get (s.who o)).signaled = false ∧
    (s.parks.get (s.who o)).flags = .waiting ∧ (s.parks.get (s.who o)).interrupted = false
  /-- Its event is signaled for a reason only. -/
  signaled : ∀ i w, s.Asleep home i → s.waitOf home i = some w → (s.parks.get i).signaled →
    (∃ x ∈ episode (home i) past, x.Dequeues i w.monitor) ∨ (s.parks.get i).interrupted
  /-- The sleep on the futex ends only when the event is signaled or the time limit has run out, for
  whatever reason the kernel may end it before. -/
  futex : ∀ o w since, s.point o = .sleeping w since → s.violation = none →
    (Event.State.first (.wait w.limit)).Within w.ms since ∧
    ∀ e e' l, e.signaled = (s.parks.get (s.who o)).signaled → e.now = s.now →
      (e.threads.get o).Within w.ms since → Event.State.step e l = some e' →
      (e'.threads.get o).Within w.ms since ∨
      (e'.threads.get o = .out (some true) ∧
        ∃ t, s.step (.advance o) = some t ∧ t.point o = .waking w) ∨
      (e'.threads.get o = .out (some false) ∧
        ∃ t, s.step (.giveUp o) = some t ∧ t.point o = .waking w)

/-- Whoever has been notified is not in the queue any more. -/
theorem Run.dequeued_of_notified (h : Run home past s) (hw : s.waitOf home i = some w)
    (hn : s.phaseOf home i = .decided w.monitor true ∨ (s.parks.get i).isNotified) :
    ∃ x ∈ episode (home i) past, x.Dequeues i w.monitor := by
  refine (h.queued_or_dequeued hw).resolve_left fun hq => ?_
  obtain ⟨he, hf⟩ := (h.orderly.mem_line _ _).mp (List.mem_append_right _ hq)
  rcases hn with hn | hn
  · rcases he with he | he <;> rw [phase_room, hn] at he <;> cases he
  · rw [Room.notified, flags_room] at hf
    exact Bool.false_ne_true (hf.symm.trans hn)

theorem Run.wait_cause (h : Run home past s) (ho : ∀ x ∈ past, x.label.TakesOwn home) {ms : Nat}
    (ha : answered past = some (i, .wait m ms, .bool false)) :
    (∃ x ∈ episode (home i) past, x.Dequeues i m) ∨
      ∃ saved, Expired (home i) ⟨m, ms, saved⟩ past s.now := by
  obtain ⟨o, u, past, rfl, -, hs, hw, hc, ⟨-, ⟨⟩⟩ | ⟨w, n, b, hp, rfl, rfl, e⟩⟩ :=
    h.trace.wait_returns ha
  cases e
  cases h with
  | step _ hr _ _ =>
    obtain rfl := hr.home_of_lastCall hc rfl
    cases n with
    | true =>
      refine .inl ?_
      obtain ⟨x, hx, hd⟩ := hr.dequeued_of_notified
        (waitOf_eq_some_iff.mpr ⟨hw, by rw [hp]; rfl⟩) (.inl (by rw [phaseOf, if_pos hw, hp]; rfl))
      exact ⟨x, mem_episode_cons hx rfl, hd⟩
    | false =>
      have hx := hr.accounts (fun x hx => ho x (List.mem_cons_of_mem _ hx)) (home i)
      rw [State.Accounts, hp] at hx
      exact .inr ⟨w.saved, hx.mono rfl (step_transition hs).now_le⟩

/-- **No spurious and no stale wake-up.** -/
theorem Run.cause (h : Run home past s) (ho : ∀ x ∈ past, x.label.TakesOwn home) :
    Cause home past s where
  returns _ _ _ := h.wait_cause ho
  untimed _ _ ha := (h.wait_cause ho ha).resolve_right fun ⟨_, hm, _⟩ => hm rfl
  fresh o w hp :=
    have hq := h.alert.settles o (by rw [hp]; trivial)
    ⟨(h.honest ho).parking o w hp, hq.1, hq.2⟩
  signaled i w ha hw hs := by
    have := (h.honest ho).sleeps (home i) ha.2
    rw [ha.1] at this
    exact (this hs).imp_left fun hn => h.dequeued_of_notified hw (.inr hn)
  futex o w since hp hv := by
    refine ⟨Event.State.within_first, fun e e' l hs hn hq he => ?_⟩
    have ha := h.accounts ho o
    rw [State.Accounts, hp] at ha
    refine (Event.State.within_step he hq (hn ▸ ha.1)).imp_right (.imp ?_ ?_)
    · rintro ⟨hq, he⟩
      exact ⟨hq, _, (Transition.wakes hp (.inl ⟨rfl, hs ▸ he⟩)).step hv, by simp⟩
    · rintro ⟨hq, hm, hl⟩
      exact ⟨hq, _, (Transition.wakes hp (.inr ⟨rfl, hm, hn ▸ hl⟩)).step hv, by simp⟩

/-- A thread that was notified waits again, for three milliseconds. Its event is still signaled from
before, yet its second wait lasts until the time limit. -/
theorem cause_again : ∃ past s, Run id past s ∧ (∀ x ∈ past, x.label.TakesOwn id) ∧
    (∃ x ∈ past, x.label = .call 0 0 (.wait 0 3) ∧ (x.before.parks.get 0).signaled) ∧
    answered past = some (0, .wait 0 3, .bool false) ∧
    (∀ x ∈ episode 0 past, ¬ x.Dequeues 0 0) ∧ s.now = 3 ∧ Cause id past s := by
  obtain ⟨past, s, h, hp⟩ := exists_run id
    (fun past s => (∀ x ∈ past, x.label.TakesOwn id) ∧
      (∃ x ∈ past, x.label = .call 0 0 (.wait 0 3) ∧ (x.before.parks.get 0).signaled) ∧
      answered past = some (0, .wait 0 3, .bool false) ∧
      (∀ x ∈ episode 0 past, ¬ x.Dequeues 0 0) ∧ s.now = 3)
    (Label.enter 0 0 ++ Label.doze 0 0 ++ Label.enter 1 0 ++ Label.notifyFirst 1 0 ++
      [.call 1 1 (.release 0), .advance 1] ++ List.replicate 4 (.advance 0) ++
      .call 0 0 (.wait 0 3) :: List.replicate 4 (.advance 0) ++ [.pass 3, .giveUp 0] ++
      List.replicate 3 (.advance 0)) (by decide)
  simp only [decide_eq_true_eq] at hp
  obtain ⟨ho, hx, ha, hd, hn⟩ := hp
  exact ⟨past, s, h, ho, hx, ha, hd, hn, h.cause ho⟩

end VmHost.Monitor
