import VmHost.Proofs.Monitor.Enabled
import VmHost.Proofs.Monitor.Ledger

/-!
# The steps of one operation

Between a call of an OS thread and its answer, steps of all OS threads are interleaved. They are the
*episode* of the OS thread: what has happened since its last call, the call included. What an
operation returns is explained by the steps of its episode.
-/
namespace VmHost.Monitor

open State Point

/-- The step is a call on this OS thread. -/
def Moment.calls (o : OsThread) (x : Moment) : Bool :=
  match x.label with
  | .call o' .. => o' = o
  | _ => false

/-- What has happened since the last call of an OS thread, the newest step first and the call at the
end. -/
def episode (o : OsThread) : List Moment → List Moment
  | [] => []
  | x :: past => if x.calls o then [x] else x :: episode o past

/-- The steps of the episode that the OS thread has taken itself. -/
def deeds (o : OsThread) (past : List Moment) : List Moment :=
  (episode o past).filter (·.label.actor = some o)

variable {home : Identity → OsThread} {s t : State} {l : Label} {o : OsThread} {i : Identity}
  {m : MonitorId} {c : Call} {past : List Moment} {x : Moment}

theorem Moment.calls_iff : x.calls o = true ↔ ∃ i c, x.label = .call o i c := by
  unfold Moment.calls
  split <;> simp_all

/-- A sleep does not end with a call. -/
theorem not_wakes_call {o' : OsThread} {p q : Prop} :
    ¬ (Label.call o i c = .advance o' ∧ p ∨ Label.call o i c = .giveUp o' ∧ q) := by
  rintro (⟨⟨⟩, -⟩ | ⟨⟨⟩, -⟩)

/-- Who calls rests. -/
theorem Transition.rest_of_call (ht : Transition s (.call o i c) t) : ∃ r, s.point o = .rest r := by
  cases ht with
  | begins hr | refused hr | nests hr | unnests hr | quits hr | notifiesNobody hr | notifies hr =>
    exact ⟨_, hr⟩
  | wakes _ hl => exact (not_wakes_call hl).elim

/-- In the middle of an operation there is no call. -/
theorem Transition.calls_eq_false (ht : Transition s l t) (hr : ∀ r, s.point o ≠ .rest r) :
    Moment.calls o ⟨s, l, t⟩ = false := by
  rw [Bool.eq_false_iff, Ne, Moment.calls_iff]
  rintro ⟨i, c, rfl⟩
  obtain ⟨r, h⟩ := ht.rest_of_call
  exact hr r h

/-- At rest, or stopped by its depth, an OS thread does nothing without a call. -/
theorem State.busy_of_advance (hs : s.step (.advance o) = some t) :
    (∀ r, s.point o ≠ .rest r) ∧ s.point o ≠ .overflowed := by
  rw [step_advance (step_violation hs)] at hs
  constructor
  · intro r hr
    simp [advance, hr] at hs
  · intro hp
    simp [advance, hp] at hs

/-- Without a call, an OS thread at rest stays there. -/
theorem State.rest_of_not_calls {r : Option Reply} (hs : s.step l = some t)
    (hx : Moment.calls o ⟨s, l, t⟩ = false) (hp : s.point o = .rest r) : t.point o = .rest r := by
  by_cases ha : l.actor = some o
  · cases l with
    | call o' j c =>
      obtain rfl : o' = o := Option.some.inj ha
      simp [Moment.calls] at hx
    | advance o' =>
      obtain rfl : o' = o := Option.some.inj ha
      exact absurd hp ((busy_of_advance hs).1 r)
    | giveUp o' =>
      obtain rfl : o' = o := Option.some.inj ha
      simp [State.step, giveUp, hp] at hs
    | pass => cases ha
  · rw [((step_transition hs).standing_other ha).1, hp]

theorem episode_call : episode o (⟨s, .call o i c, t⟩ :: past) = [⟨s, .call o i c, t⟩] := by
  simp [episode, Moment.calls]

theorem episode_of_not_calls (h : x.calls o = false) :
    episode o (x :: past) = x :: episode o past := by
  simp [episode, h]

/-- An episode lasts as long as there is no call. -/
theorem mem_episode_cons {y : Moment} (h : x ∈ episode o past) (hy : y.calls o = false) :
    x ∈ episode o (y :: past) := by
  rw [episode_of_not_calls hy]
  exact List.mem_cons_of_mem _ h

theorem Moment.actor_of_calls (h : x.calls o = true) : x.label.actor = some o := by
  obtain ⟨i, c, hl⟩ := Moment.calls_iff.mp h
  rw [hl]
  rfl

theorem deeds_call : deeds o (⟨s, .call o i c, t⟩ :: past) = [⟨s, .call o i c, t⟩] := by
  simp [deeds, episode_call, Label.actor]

theorem deeds_self (ho : x.label.actor = some o) (hx : x.calls o = false) :
    deeds o (x :: past) = x :: deeds o past := by
  simp [deeds, episode_of_not_calls hx, ho]

/-- The steps of other OS threads are not its own. -/
theorem deeds_other (ho : x.label.actor ≠ some o) : deeds o (x :: past) = deeds o past := by
  have hx : x.calls o = false := by
    rw [Bool.eq_false_iff]
    exact fun h => ho (Moment.actor_of_calls h)
  simp [deeds, episode_of_not_calls hx, ho]

theorem mem_deeds_call : ⟨s, .call o i c, t⟩ ∈ deeds o (⟨s, .call o i c, t⟩ :: past) := by
  rw [deeds_call]
  exact List.mem_singleton.mpr rfl

theorem mem_of_mem_deeds (hx : x ∈ deeds o past) : x ∈ past := by
  replace hx := (List.mem_filter.mp hx).1
  induction past with
  | nil => exact hx
  | cons y past ih =>
    unfold episode at hx
    split at hx
    · exact List.mem_cons.mpr (.inl (List.mem_singleton.mp hx))
    · rcases List.mem_cons.mp hx with rfl | hx
      · exact List.mem_cons_self
      · exact List.mem_cons_of_mem _ (ih hx)

theorem lastCall_of_not_calls (h : x.calls o = false) : lastCall o (x :: past) = lastCall o past := by
  by_cases ho : x.label.actor = some o
  · rw [lastCall_self ho]
    cases hl : x.label <;> simp_all [Moment.calls, Label.actor, Label.call?]
  · exact lastCall_other ho

/-- The call of an operation is the only one in it. -/
theorem lastCall_of_mem_deeds (hx : x ∈ deeds o past) (hl : x.label = .call o i c) :
    lastCall o past = some (i, c) := by
  replace hx := (List.mem_filter.mp hx).1
  have hc : x.calls o = true := Moment.calls_iff.mpr ⟨i, c, hl⟩
  induction past with
  | nil => cases hx
  | cons y past ih =>
    unfold episode at hx
    split at hx
    · obtain rfl := List.mem_singleton.mp hx
      rw [lastCall_self (Moment.actor_of_calls hc), hl]
      rfl
    · rename_i hy
      rw [lastCall_of_not_calls (by simpa using hy)]
      rcases List.mem_cons.mp hx with rfl | hx
      · exact absurd hc hy
      · exact ih hx

/-- An OS thread calls in the name of an identity that is at home there. -/
theorem Run.home_of_lastCall (h : Run home past s) (hc : lastCall o past = some (i, c))
    (hn : c.isNamed) : home i = o := by
  induction h with
  | start => cases hc
  | @step past s t l hr hf hs ih =>
    cases hx : Moment.calls o ⟨s, l, t⟩ with
    | true =>
      obtain ⟨j, d, rfl⟩ := Moment.calls_iff.mp hx
      rw [lastCall_call] at hc
      cases hc
      exact hf hn
    | false =>
      rw [lastCall_of_not_calls hx] at hc
      exact ih hc

/-! ## Answers -/

/-- The call has to take a park cell before it can answer. -/
def Call.isLong : Call → Bool
  | .wait .. | .interrupt _ | .query .. => true
  | _ => false

/-- With the next step from the point an operation can answer so. -/
inductive Point.Ends : Point → Reply → Prop
  | entering (m : MonitorId) : Ends (.entering m) .done
  | trying (m : MonitorId) (b : Bool) : Ends (.trying m) (.bool b)
  | leaving (m : MonitorId) : Ends (.leaving m) .done
  | consuming : Ends .consuming (.bool true)
  | reentering (w : Waiting) (n b : Bool) : Ends (.reentering w n b) (.bool b)
  | departing (m : MonitorId) (j : Identity) : Ends (.departing m j []) .done
  | posted (j : Identity) : Ends (.posted j) .done
  | answering (j : Identity) (a : Reply) : Ends (.answering j a) a

/-- A call that needs a park cell does not answer at once. -/
theorem Transition.not_answered {a : Reply} (ht : Transition s (.call o i c) t) (hc : c.isLong) :
    t.point o ≠ .rest (some a) := by
  intro hp
  cases ht with
  | begins _ hb => cases hb <;> simp [Call.isLong] at hp hc
  | refused | notifies => simp at hp
  | nests _ he => cases he <;> cases hc
  | notifiesNobody _ hn => cases hn <;> cases hc
  | unnests | quits => cases hc
  | wakes _ hl => exact not_wakes_call hl

theorem Transition.ends {a : Reply} (ht : Transition s (.advance o) t)
    (hr : ∀ r, s.point o ≠ .rest r) (hp : t.point o = .rest (some a)) : (s.point o).Ends a := by
  cases ht with
  | enters hq =>
    simp only [point_place, if_true, rest.injEq, Option.some.injEq] at hp
    subst hp
    rcases hq with ⟨hq, rfl⟩ | ⟨hq, rfl⟩ <;> rw [hq] <;> constructor
  | misses hq | leaves hq | declined hq | returns hq | delivered hq | posted hq | answers hq =>
    simp only [point_place, if_true, rest.injEq, Option.some.injEq] at hp
    subst hp
    rw [hq]
    constructor
  | posts _ _ hq =>
    subst hq
    simp only [point_place, if_true] at hp
    split at hp <;> cases hp
  | wakes _ hl =>
    cases Option.some.inj (wakes_actor hl)
    simp at hp
  | crashes => exact absurd hp (hr _)
  | _ => simp at hp

/-- A call that needs a park cell is answered with the last step of an operation that serves it. -/
theorem Trace.ends_of_answered {a : Reply} (h : Trace past s)
    (ha : answered past = some (i, c, a)) (hc : c.isLong) :
    ∃ o u earlier, past = ⟨u, .advance o, s⟩ :: earlier ∧ Trace earlier u ∧
      u.step (.advance o) = some s ∧ u.who o = i ∧ lastCall o earlier = some (i, c) ∧
      (u.point o).Serves c ∧ (u.point o).Ends a := by
  cases h with
  | start => cases ha
  | @step past u _ l hr hs =>
    have ht := step_transition hs
    cases l with
    | pass => cases ha
    | call o j d =>
      obtain ⟨hd, hp⟩ := (answered_eq_some_iff rfl).mp ha
      rw [lastCall_call] at hd
      cases hd
      exact absurd (Moment.answer?_eq_some_iff.mp hp) (ht.not_answered hc)
    | giveUp o =>
      obtain ⟨-, hp⟩ := (answered_eq_some_iff rfl).mp ha
      rw [Moment.answer?_eq_some_iff] at hp
      cases ht with
      | wakes _ hl =>
        cases Option.some.inj (wakes_actor hl)
        simp at hp
    | advance o =>
      obtain ⟨hd, hp⟩ := (answered_eq_some_iff rfl).mp ha
      rw [lastCall_advance] at hd
      rw [Moment.answer?_eq_some_iff] at hp
      have hb := (busy_of_advance hs).1
      rcases hr.serves o with ⟨r, hq⟩ | ⟨e, he, hv⟩
      · exact absurd hq (hb r)
      · rw [hd] at he
        cases he
        exact ⟨o, u, past, rfl, hr, hs, rfl, hd, hv, ht.ends hb hp⟩

/-- A wait returns from its first critical section, or back in the monitor. -/
theorem Trace.wait_returns {ms : Nat} {a : Reply} (h : Trace past s)
    (ha : answered past = some (i, .wait m ms, a)) :
    ∃ o u earlier, past = ⟨u, .advance o, s⟩ :: earlier ∧ Trace earlier u ∧
      u.step (.advance o) = some s ∧ u.who o = i ∧ lastCall o earlier = some (i, .wait m ms) ∧
      (u.point o = .consuming ∧ a = .bool true ∨
        ∃ w n b, u.point o = .reentering w n b ∧ w.monitor = m ∧ w.ms = ms ∧ a = .bool b) := by
  obtain ⟨o, u, past, rfl, hr, hs, hw, hc, hv, he⟩ := h.ends_of_answered ha rfl
  refine ⟨o, u, past, rfl, hr, hs, hw, hc, ?_⟩
  cases hp : u.point o <;> rw [hp] at hv he <;> cases he
  case consuming => exact .inl ⟨rfl, rfl⟩
  case reentering w n b =>
    cases hv
    exact .inr ⟨w, n, b, rfl, rfl, rfl, rfl⟩
  all_goals simp [Point.Serves] at hv

end VmHost.Monitor
