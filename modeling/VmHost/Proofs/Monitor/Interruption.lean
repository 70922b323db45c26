import VmHost.Proofs.Monitor.Episode

/-!
# Interruptions are neither lost nor duplicated

The pending interruption of a thread is one bit in its park cell. One step of an interruption sets it
(`Moment.Posts`). Three steps read and clear it, each inside the park cell: the first and the second
critical section of a wait, and a question that takes it (`Moment.Looks`). A step that has found the
bit set has *taken* the interruption (`Moment.Takes`).

`Trace.interruption` orders interruptions and results by these steps, at which they take effect. It
needs no discipline: an identity may be used on any OS thread.
-/
namespace VmHost.Monitor

open State Point

/-- What becomes of the pending interruption of `j` with the next step of an OS thread that acts as
`i`, if the step writes it. -/
def Point.marks (i j : Identity) : Point → Option Bool
  | .posting k => if j = k then some true else none
  | .queueing .. | .waking _ => if j = i then some false else none
  | .asking k .takeInterrupted => if j = k then some false else none
  | _ => none

namespace Moment

/-- What the step makes of the pending interruption of a thread, if it writes it. -/
def marks (j : Identity) (x : Moment) : Option Bool :=
  match x.label with
  | .advance o => (x.before.point o).marks (x.before.who o) j
  | _ => none

/-- The step sets the pending interruption of a thread. -/
def Posts (j : Identity) (x : Moment) : Prop := x.marks j = some true

/-- The step reads and clears the pending interruption of a thread. -/
def Looks (j : Identity) (x : Moment) : Prop := x.marks j = some false

/-- The step takes the pending interruption of a thread: it finds it set and clears it. -/
def Takes (j : Identity) (x : Moment) : Prop := x.Looks j ∧ (x.before.parks.get j).interrupted

instance (j : Identity) : DecidablePred (Posts j) := fun x =>
  inferInstanceAs (Decidable (x.marks j = some true))

instance (j : Identity) : DecidablePred (Looks j) := fun x =>
  inferInstanceAs (Decidable (x.marks j = some false))

instance (j : Identity) : DecidablePred (Takes j) := fun x =>
  inferInstanceAs (Decidable (x.Looks j ∧ _))

end Moment

/-- An interruption has been posted and not been taken since. -/
def outstanding (j : Identity) : List Moment → Bool
  | [] => false
  | x :: past => x.Posts j || (!x.Takes j && outstanding j past)

/-- The looks of an OS thread for an interruption of a thread, in some of its steps: where it stood,
and what it found. -/
def found (o : OsThread) (j : Identity) (ds : List Moment) : List (Point × Bool) :=
  (ds.filter (·.Looks j)).map fun x => (x.before.point o, (x.before.parks.get j).interrupted)

/-- None of the steps changes a monitor. -/
def Untouched (ds : List Moment) : Prop := ∀ x ∈ ds, x.after.monitors = x.before.monitors

/-- The newest step is one of the OS thread and answers its call. -/
def Answers (o : OsThread) (past : List Moment) (i : Identity) (c : Call) (a : Reply) : Prop :=
  past.head?.bind (·.label.actor) = some o ∧ answered past = some (i, c, a)

instance (o : OsThread) (past : List Moment) (i : Identity) (c : Call) (a : Reply) :
    Decidable (Answers o past i c a) := inferInstanceAs (Decidable (_ ∧ _))

/-- The call, made in the name of `i`, takes the pending interruption of `j`. -/
def Call.TakesFrom (i j : Identity) : Call → Prop
  | .wait .. => i = j
  | .query k .takeInterrupted => k = j
  | _ => False

variable {s t : State} {l : Label} {o : OsThread} {i j : Identity} {m : MonitorId} {c : Call}
  {past : List Moment} {x : Moment}

/-! ## The bit and its history -/

/-- Nobody stops at a park cell. -/
theorem State.Celled.marks_of_crashes (h : s.Celled) {v : Violation} (hc : Crashes s o v) :
    (s.point o).marks (s.who o) j = none := by
  cases hc with
  | seek m hs | give m hs =>
    cases hp : s.point o <;> rw [hp] at hs <;> first | rfl | cases hs
  | reach k hs hh => exact absurd hh (h.not_reached hs)
  | drop k hs hh => exact absurd (h.dropped hs) hh

/-- What a step does to a pending interruption. -/
theorem State.Celled.interrupted_eq (h : s.Celled) (ht : Transition s l t) (j : Identity) :
    (t.parks.get j).interrupted =
      (Moment.marks j ⟨s, l, t⟩).getD (s.parks.get j).interrupted := by
  cases ht with
  | crashes hc => simp [Moment.marks, h.marks_of_crashes hc]
  | wakes hp hl => rcases hl with ⟨rfl, -⟩ | ⟨rfl, -⟩ <;> simp [Moment.marks, hp, Point.marks]
  | enters hp => rcases hp with ⟨hp, -⟩ | ⟨hp, -⟩ <;> simp [Moment.marks, hp, Point.marks]
  | misses hp | leaves hp | yields hp | returns hp => simp [Moment.marks, hp, Point.marks]
  | @declines o _ _ hp | @collects o _ hp =>
    by_cases e : j = s.who o <;> simp [Moment.marks, hp, Point.marks, e]
  | @queues o _ _ hp _ hi =>
    by_cases e : j = s.who o <;> simp [Moment.marks, hp, Point.marks, e, hi]
  | @declined o hp | @clears o _ hp | @parks o _ hp | @decides o _ _ _ hp =>
    by_cases e : j = s.who o <;> simp [Moment.marks, hp, Point.marks, e]
  | @flags _ _ k _ hp | @signals _ _ k _ hp | @delivers _ _ k _ _ hp | @delivered _ _ k hp
  | @posts _ k _ hp | @rouses _ k hp | @posted _ k hp | @answers _ k _ hp =>
    by_cases e : j = k <;> simp [Moment.marks, hp, Point.marks, e]
  | @asks _ k q hp =>
    cases q <;> by_cases e : j = k <;> simp [Moment.marks, hp, Point.marks, e, Query.keeps]
  | _ => simp [Moment.marks]

/-- A pending interruption has been posted and not been taken since. -/
theorem Trace.interrupted_eq (h : Trace past s) (j : Identity) :
    (s.parks.get j).interrupted = outstanding j past := by
  induction h with
  | start => simp [outstanding, Park.idle]
  | @step past s t l hr hs ih =>
    rw [hr.celled.interrupted_eq (step_transition hs) j, outstanding, ← ih]
    cases hm : Moment.marks j ⟨s, l, t⟩ with
    | none => simp [Moment.Posts, Moment.Takes, Moment.Looks, hm]
    | some b =>
      cases b <;> simp [Moment.Posts, Moment.Takes, Moment.Looks, hm]

/-- No more interruptions are taken or pending than were posted. -/
theorem Trace.countP_takes_le (h : Trace past s) (j : Identity) :
    past.countP (·.Takes j) + (s.parks.get j).interrupted.toNat ≤ past.countP (·.Posts j) := by
  induction h with
  | start => simp [Park.idle]
  | @step past s t l hr hs ih =>
    rw [hr.celled.interrupted_eq (step_transition hs) j, List.countP_cons, List.countP_cons]
    cases hm : Moment.marks j ⟨s, l, t⟩ with
    | none => simpa [Moment.Posts, Moment.Takes, Moment.Looks, hm] using ih
    | some b =>
      cases b <;> cases hb : (s.parks.get j).interrupted <;>
        simp [Moment.Posts, Moment.Takes, Moment.Looks, hm, hb] at ih ⊢ <;> omega

/-- What is outstanding has been posted later than it was taken. -/
theorem outstanding_iff : outstanding j past = true ↔
    ∃ later x earlier, past = later ++ x :: earlier ∧ x.Posts j ∧ ∀ y ∈ later, ¬ y.Takes j := by
  induction past with
  | nil => simp [outstanding]
  | cons y past ih =>
    simp only [outstanding, Bool.or_eq_true, Bool.and_eq_true, decide_eq_true_eq,
      Bool.not_eq_true', decide_eq_false_iff_not, ih]
    constructor
    · rintro (hp | ⟨ht, later, x, earlier, rfl, hp, hl⟩)
      · exact ⟨[], y, past, rfl, hp, by simp⟩
      · exact ⟨y :: later, x, earlier, rfl, hp, List.forall_mem_cons.mpr ⟨ht, hl⟩⟩
    · rintro ⟨later, x, earlier, e, hp, hl⟩
      cases later with
      | nil =>
        cases e
        exact .inl hp
      | cons z later =>
        obtain ⟨rfl, rfl⟩ := List.cons.inj e
        obtain ⟨ht, hl⟩ := List.forall_mem_cons.mp hl
        exact .inr ⟨ht, later, x, earlier, rfl, hp, hl⟩

/-- A step of a run was taken in a state that the run had reached. -/
theorem Trace.split {later earlier : List Moment} (h : Trace (later ++ x :: earlier) s) :
    Trace earlier x.before ∧ x.before.step x.label = some x.after := by
  induction later generalizing s with
  | nil =>
    cases h with
    | step l hr hs => exact ⟨hr, hs⟩
  | cons y later ih =>
    cases h with
    | step l hr _ => exact ih hr

theorem Trace.step_of_mem (h : Trace past s) (hx : x ∈ past) :
    x.before.step x.label = some x.after := by
  obtain ⟨later, earlier, rfl⟩ := List.append_of_mem hx
  exact h.split.2

theorem Trace.posted_between {later mid earlier : List Moment} {y : Moment}
    (h : Trace (later ++ x :: (mid ++ y :: earlier)) s) (hx : x.Takes j) (hy : y.Takes j) :
    ∃ z ∈ mid, z.Posts j := by
  have ho := hx.2
  rw [h.split.1.interrupted_eq j, outstanding_iff] at ho
  obtain ⟨newer, z, older, e, hz, hn⟩ := ho
  -- The last step to post is later than `y`, which has taken.
  rcases List.append_eq_append_iff.mp e with ⟨between, rfl, e'⟩ | ⟨between, rfl, e'⟩
  · cases between with
    | nil =>
      rw [List.nil_append] at e'
      obtain ⟨rfl, -⟩ := List.cons.inj e'
      rw [Moment.Posts, hy.1] at hz
      cases hz
    | cons v between =>
      obtain ⟨rfl, -⟩ := List.cons.inj e'
      exact absurd hy (hn _ (by simp))
  · cases between with
    | nil =>
      obtain ⟨rfl, -⟩ := List.cons.inj e'
      rw [Moment.Posts, hy.1] at hz
      cases hz
    | cons v between =>
      obtain ⟨rfl, -⟩ := List.cons.inj e'
      exact ⟨_, by simp, hz⟩

/-! ## What an operation has done so far -/

/-- What an OS thread at a point, with a call in the name of `i`, has done with its own steps. -/
def Point.Tells (o : OsThread) (i : Identity) (c : Call) (ds : List Moment) : Point → Prop
  | .queueing .. => found o i ds = [] ∧ Untouched ds
  | .consuming => ∃ m ms, c = .wait m ms ∧ found o i ds = [(.queueing m ms, true)] ∧ Untouched ds
  | .yielding w | .clearing w | .parking w | .sleeping w _ | .waking w =>
    found o i ds = [(.queueing w.monitor w.ms, false)]
  | .deciding w _ b | .reentering w _ b =>
    found o i ds = [(.waking w, b), (.queueing w.monitor w.ms, false)]
  | .rousing j | .posted j => ∃ x ∈ ds, x.Posts j
  | .asking j _ => found o j ds = []
  | .answering j a => c = .query j .takeInterrupted →
    ∃ b, a = .bool b ∧ found o j ds = [(.asking j .takeInterrupted, b)]
  | _ => True

/-- What an OS thread in the middle of an operation has done is what its point tells. -/
def State.Tells (s : State) (o : OsThread) (past : List Moment) : Prop :=
  ∀ c, lastCall o past = some (s.who o, c) → (s.point o).Tells o (s.who o) c (deeds o past)

theorem found_keep {ds : List Moment} (h : x.marks j = none) : found o j (x :: ds) = found o j ds := by
  simp [found, Moment.Looks, h]

theorem found_look {ds : List Moment} (h : x.Looks j) : found o j (x :: ds) =
    (x.before.point o, (x.before.parks.get j).interrupted) :: found o j ds := by
  simp [found, h]

theorem Untouched.cons {ds : List Moment} (h : Untouched ds)
    (hx : x.after.monitors = x.before.monitors) : Untouched (x :: ds) :=
  List.forall_mem_cons.mpr ⟨hx, h⟩

/-- An OS thread that stays where it is has nothing to add. -/
theorem Point.Tells.keep {ds : List Moment} {p : Point} (h : p.Tells o i c ds)
    (hm : ∀ j, x.marks j = none) (hx : x.after.monitors = x.before.monitors) :
    p.Tells o i c (x :: ds) := by
  cases p with
  | queueing => exact ⟨(found_keep (hm i)).trans h.1, h.2.cons hx⟩
  | consuming =>
    obtain ⟨m, ms, hc, hf, hu⟩ := h
    exact ⟨m, ms, hc, (found_keep (hm i)).trans hf, hu.cons hx⟩
  | yielding | clearing | parking | sleeping | waking | deciding | reentering | asking =>
    exact (found_keep (hm _)).trans h
  | rousing | posted =>
    obtain ⟨y, hy, hp⟩ := h
    exact ⟨y, List.mem_cons_of_mem _ hy, hp⟩
  | answering =>
    intro hc
    obtain ⟨b, ha, hf⟩ := h hc
    exact ⟨b, ha, (found_keep (hm _)).trans hf⟩
  | _ => trivial

/-- An OS thread goes on within its operation. -/
theorem State.Tells.next {u : State} {p q : Point} (h : s.Tells o past) (hv : s.Serves o past)
    (hl : l.actor = some o) (hn : Moment.calls o ⟨s, l, u.place o (s.who o) p⟩ = false)
    (hp : s.point o = q) (hr : ∀ r, q ≠ .rest r)
    (hq : ∀ c, q.Serves c → q.Tells o (s.who o) c (deeds o past) →
      p.Tells o (s.who o) c (⟨s, l, u.place o (s.who o) p⟩ :: deeds o past)) :
    (u.place o (s.who o) p).Tells o (⟨s, l, u.place o (s.who o) p⟩ :: past) := by
  intro c hc
  rw [who_place, if_pos rfl, lastCall_of_not_calls hn] at hc
  rw [point_place, who_place, if_pos rfl, if_pos rfl, deeds_self hl hn]
  rcases hv with ⟨r, hr'⟩ | ⟨d, hd, hs⟩
  · exact absurd (hp.symm.trans hr') (hr r)
  · rw [hc, Option.some.injEq, Prod.mk.injEq] at hd
    obtain ⟨-, rfl⟩ := hd
    refine hq c (hp ▸ hs) ?_
    have := h c hc
    rwa [hp] at this

/-- An OS thread begins an operation. -/
theorem Begins.tells {p : Point} (hb : Begins s i c p) :
    p.Tells o i c [⟨s, .call o i c, s.place o i p⟩] := by
  cases hb with
  | wait => exact ⟨rfl, fun x hx => by rw [List.mem_singleton.mp hx]; rfl⟩
  | query => rfl
  | _ => trivial

theorem Transition.tells_call (ht : Transition s (.call o i c) t) :
    t.Tells o (⟨s, .call o i c, t⟩ :: past) := by
  intro d hd
  rw [lastCall_call, Option.some.injEq, Prod.mk.injEq] at hd
  obtain ⟨hw, rfl⟩ := hd
  rw [deeds_call, ← hw]
  cases ht with
  | begins _ hb =>
    rw [point_place, if_pos rfl]
    exact hb.tells
  | wakes _ hl => exact (not_wakes_call hl).elim
  | _ => simp [Point.Tells]

theorem State.Tells.advance (h : s.Tells o past) (hv : s.Serves o past) (hc : s.Celled)
    (hs : s.step l = some t) (hl : l.actor = some o) (hn : Moment.calls o ⟨s, l, t⟩ = false) :
    t.Tells o (⟨s, l, t⟩ :: past) := by
  cases step_transition hs with
  | declines hp _ hi =>
    cases hl
    refine h.next hv rfl rfl hp (by simp) fun c hc ht => ⟨_, _, hc, ?_, ht.2.cons rfl⟩
    rw [found_look (by simp [Moment.Looks, Moment.marks, hp, Point.marks]), ht.1, hp, hi]
  | queues hp _ hi =>
    cases hl
    refine h.next hv rfl rfl hp (by simp) fun c _ ht => ?_
    refine (found_look (by simp [Moment.Looks, Moment.marks, hp, Point.marks])).trans ?_
    rw [ht.1, hp, hi]
  | collects hp =>
    cases hl
    refine h.next hv rfl rfl hp (by simp) fun c _ ht => ?_
    refine (found_look (by simp [Moment.Looks, Moment.marks, hp, Point.marks])).trans ?_
    rw [show found o _ _ = _ from ht, hp]
  | @asks _ j q hp =>
    cases hl
    refine h.next hv rfl rfl hp (by simp) fun c hc ht he => ?_
    cases hc
    cases he
    refine ⟨_, rfl, (found_look (by simp [Moment.Looks, Moment.marks, hp, Point.marks])).trans ?_⟩
    rw [show found o _ _ = _ from ht, hp]
  | yields hp | clears hp | parks hp | decides hp =>
    cases hl
    exact h.next hv rfl rfl hp (by simp) fun c _ ht =>
      (found_keep (by simp [Moment.marks, hp, Point.marks])).trans ht
  | wakes hp hl' =>
    cases Option.some.inj ((wakes_actor hl').symm.trans hl)
    refine h.next hv hl hn hp (by simp) fun c _ ht => (found_keep ?_).trans ht
    rcases hl' with ⟨rfl, -⟩ | ⟨rfl, -⟩ <;> simp [Moment.marks, hp, Point.marks]
  | posts hp _ hq =>
    cases hl
    refine h.next hv rfl rfl hp (by simp) fun c _ _ => ?_
    subst hq
    split <;>
      exact ⟨_, List.mem_cons_self, by simp [Moment.Posts, Moment.marks, hp, Point.marks]⟩
  | rouses hp =>
    cases hl
    exact h.next hv rfl rfl hp (by simp) fun c _ ht =>
      ht.imp fun x hx => ⟨List.mem_cons_of_mem _ hx.1, hx.2⟩
  | crashes hx =>
    cases hl
    intro c hc'
    rw [lastCall_advance] at hc'
    rw [deeds_self rfl rfl]
    exact (h c hc').keep (fun j => hc.marks_of_crashes hx) rfl
  | begins | refused | nests | unnests | quits | notifiesNobody | notifies =>
    cases hl
    simp [Moment.calls] at hn
  | passes => cases hl
  | _ =>
    cases hl
    intro c _
    simp [Point.Tells]

theorem Trace.tells (h : Trace past s) (o : OsThread) : s.Tells o past := by
  induction h with
  | start =>
    intro c hc
    cases hc
  | @step past s t l hr hs ih =>
    have ht := step_transition hs
    by_cases ho : l.actor = some o
    · cases hn : Moment.calls o ⟨s, l, t⟩ with
      | true =>
        obtain ⟨i, c, rfl⟩ := Moment.calls_iff.mp hn
        exact ht.tells_call
      | false => exact ih.advance (hr.serves o) hr.celled hs ho hn
    · intro c hc
      rw [lastCall_other ho, (ht.standing_other ho).2] at hc
      rw [deeds_other ho, (ht.standing_other ho).1, (ht.standing_other ho).2]
      exact ih c hc

/-! ## The result -/

/-- Interruptions are neither lost nor duplicated, as far as a run has come. -/
structure Interruption (past : List Moment) (s : State) : Prop where
  posts : ∀ j l t, s.step l = some t → Moment.Posts j ⟨s, l, t⟩ → (t.parks.get j).interrupted = true
  looks : ∀ j l t, s.step l = some t → Moment.Looks j ⟨s, l, t⟩ →
    (t.parks.get j).interrupted = false
  keeps : ∀ j l t, s.step l = some t → ¬ Moment.Posts j ⟨s, l, t⟩ → ¬ Moment.Looks j ⟨s, l, t⟩ →
    (t.parks.get j).interrupted = (s.parks.get j).interrupted
  /-- Whoever has returned from an interruption has posted it. -/
  posted : ∀ o i j a, Answers o past i (.interrupt j) a → ∃ x ∈ deeds o past, x.Posts j
  /-- Only a wait of the thread itself and a question that takes it look for an interruption. -/
  looked : ∀ j later x earlier, past = later ++ x :: earlier → x.Looks j →
    ∃ o i c, x.label = .advance o ∧ lastCall o earlier = some (i, c) ∧ c.TakesFrom i j
  /-- They return `true` if they have taken one, and `false` otherwise. -/
  results : ∀ o i j c a, Answers o past i c a → c.TakesFrom i j →
    ∃ b : Bool, a = .bool b ∧ (deeds o past).countP (·.Takes j) = b.toNat
  /-- One interruption is not taken twice. -/
  between : ∀ j later x mid y earlier, past = later ++ x :: (mid ++ y :: earlier) → x.Takes j →
    y.Takes j → ∃ z ∈ mid, z.Posts j
  /-- An interruption is pending if it was posted later than one was last taken. -/
  pending : ∀ j, (s.parks.get j).interrupted = true ↔
    ∃ later x earlier, past = later ++ x :: earlier ∧ x.Posts j ∧ ∀ y ∈ later, ¬ y.Takes j
  counts : ∀ j, past.countP (·.Takes j) + (s.parks.get j).interrupted.toNat ≤
    past.countP (·.Posts j)
  /-- A wait that finds an interruption in its first critical section returns `true` and leaves all
  monitors as they are. Any other wait returns what it finds in the second one, whatever the flags
  say. -/
  waits : ∀ o i m ms a, Answers o past i (.wait m ms) a →
    found o i (deeds o past) = [(.queueing m ms, true)] ∧ a = .bool true ∧
      Untouched (deeds o past) ∨
    ∃ saved b, a = .bool b ∧
      found o i (deeds o past) = [(.waking ⟨m, ms, saved⟩, b), (.queueing m ms, false)]
  /-- Nothing can keep a wait from returning that has found an interruption at first. -/
  declined : ∀ o, s.point o = .consuming → s.violation = none →
    ∃ t, s.step (.advance o) = some t ∧ t.monitors = s.monitors ∧
      t.point o = .rest (some (.bool true))

section

variable {a : Reply}

theorem Trace.answers_interrupt (h : Trace past s) (ha : Answers o past i (.interrupt j) a) :
    ∃ x ∈ deeds o past, x.Posts j := by
  obtain ⟨hl, ha⟩ := ha
  obtain ⟨o', u, past, rfl, hr, -, hw, hc, hv, he⟩ := h.ends_of_answered ha rfl
  obtain rfl : o' = o := Option.some.inj hl
  have ht := hr.tells o' _ (hw ▸ hc)
  rw [deeds_self rfl rfl]
  cases hp : u.point o' <;> rw [hp] at hv he ht <;> cases he
  case posted k =>
    cases hv
    exact ht.imp fun x hx => ⟨List.mem_cons_of_mem _ hx.1, hx.2⟩
  all_goals simp [Point.Serves] at hv

theorem Trace.answers_question (h : Trace past s)
    (ha : Answers o past i (.query j .takeInterrupted) a) :
    ∃ b, a = .bool b ∧ found o j (deeds o past) = [(.asking j .takeInterrupted, b)] := by
  obtain ⟨hl, ha⟩ := ha
  obtain ⟨o', u, past, rfl, hr, -, hw, hc, hv, he⟩ := h.ends_of_answered ha rfl
  obtain rfl : o' = o := Option.some.inj hl
  have ht := hr.tells o' _ (hw ▸ hc)
  rw [deeds_self rfl rfl]
  cases hp : u.point o' <;> rw [hp] at hv he ht <;> cases he
  case answering k =>
    obtain ⟨q, e⟩ := hv
    cases e
    rw [found_keep (by simp [Moment.marks, hp, Point.marks])]
    exact ht rfl
  all_goals simp [Point.Serves] at hv

/-- A thread that has found an interruption at first returns and leaves all monitors as they are. -/
theorem State.Celled.declined (h : s.Celled) (hp : s.point o = .consuming)
    (hv : s.violation = none) : ∃ t, s.step (.advance o) = some t ∧ t.monitors = s.monitors ∧
      t.point o = .rest (some (.bool true)) :=
  ⟨_, (Transition.declined hp (h.dropped (by rw [hp]; rfl))).step hv, rfl, by simp⟩

theorem Trace.answers_wait {ms : Nat} (h : Trace past s) (ha : Answers o past i (.wait m ms) a) :
    found o i (deeds o past) = [(.queueing m ms, true)] ∧ a = .bool true ∧
      Untouched (deeds o past) ∨
    ∃ saved b, a = .bool b ∧
      found o i (deeds o past) = [(.waking ⟨m, ms, saved⟩, b), (.queueing m ms, false)] := by
  obtain ⟨hl, ha⟩ := ha
  obtain ⟨o', u, past, rfl, hr, hs, hw, hc, hp⟩ := h.wait_returns ha
  obtain rfl : o' = o := Option.some.inj hl
  have ht := hr.tells o' _ (hw ▸ hc)
  rw [deeds_self rfl rfl]
  rcases hp with ⟨hp, rfl⟩ | ⟨w, n, b, hp, rfl, rfl, rfl⟩ <;> rw [hp, hw] at ht <;>
    rw [found_keep (by simp [Moment.marks, hp, Point.marks])]
  · obtain ⟨_, _, e, hf, hu⟩ := ht
    cases e
    obtain ⟨t, hs', hm, -⟩ := hr.celled.declined hp (step_violation hs)
    cases hs.symm.trans hs'
    exact .inl ⟨hf, rfl, hu.cons hm⟩
  · exact .inr ⟨w.saved, b, rfl, ht⟩

theorem countP_takes (ds : List Moment) :
    ds.countP (·.Takes j) = (found o j ds).countP Prod.snd := by
  simp [found, List.countP_map, List.countP_filter, Moment.Takes, Function.comp_def, and_comm]

/-- Who takes interruptions returns whether it has taken one. -/
theorem Trace.results (h : Trace past s) (ha : Answers o past i c a) (hc : c.TakesFrom i j) :
    ∃ b : Bool, a = .bool b ∧ (deeds o past).countP (·.Takes j) = b.toNat := by
  rw [countP_takes (o := o)]
  cases c with
  | wait m ms =>
    cases hc
    rcases h.answers_wait ha with ⟨hf, rfl, -⟩ | ⟨saved, b, rfl, hf⟩ <;> rw [hf]
    · exact ⟨true, rfl, rfl⟩
    · exact ⟨b, rfl, by cases b <;> rfl⟩
  | query k q =>
    cases q with
    | takeInterrupted =>
      cases hc
      obtain ⟨b, rfl, hf⟩ := h.answers_question ha
      rw [hf]
      exact ⟨b, rfl, by cases b <;> rfl⟩
    | flags | isInterrupted => cases hc
  | _ => cases hc

end

/-- Who looks for an interruption is in the middle of a wait or question. -/
theorem Trace.looked {later earlier : List Moment} (h : Trace (later ++ x :: earlier) s)
    (hx : x.Looks j) : ∃ o i c, x.label = .advance o ∧ lastCall o earlier = some (i, c) ∧
      c.TakesFrom i j := by
  obtain ⟨hr, -⟩ := h.split
  unfold Moment.Looks Moment.marks at hx
  split at hx
  · rename_i o hl
    refine ⟨o, x.before.who o, ?_⟩
    rcases hr.serves o with ⟨r, hq⟩ | ⟨c, hc, hv⟩
    · rw [hq] at hx
      cases hx
    · refine ⟨c, hl, hc, ?_⟩
      cases hp : x.before.point o with
      | queueing | waking =>
        rw [hp] at hx hv
        cases hv
        simp only [Point.marks] at hx
        split at hx
        · rename_i e
          exact e.symm
        · cases hx
      | asking k q =>
        rw [hp] at hx hv
        cases hv
        cases q <;> simp_all [Point.marks, Call.TakesFrom]
      | posting k =>
        rw [hp] at hx
        simp [Point.marks] at hx
      | _ =>
        rw [hp] at hx
        cases hx
  · cases hx

/-- **Interruptions are neither lost nor duplicated.** -/
theorem Trace.interruption (h : Trace past s) : Interruption past s where
  posts j l t hs hp := by
    rw [h.celled.interrupted_eq (step_transition hs), hp, Option.getD_some]
  looks j l t hs hk := by
    rw [h.celled.interrupted_eq (step_transition hs), hk, Option.getD_some]
  keeps j l t hs hp hk := by
    rw [h.celled.interrupted_eq (step_transition hs)]
    cases hm : Moment.marks j ⟨s, l, t⟩ with
    | none => rfl
    | some b =>
      cases b
      · exact absurd hm hk
      · exact absurd hm hp
  posted _ _ _ _ := h.answers_interrupt
  looked _ _ _ _ e := Trace.looked (e ▸ h)
  results _ _ _ _ _ := h.results
  between _ _ _ _ _ _ e := Trace.posted_between (e ▸ h)
  pending j := by rw [h.interrupted_eq j, outstanding_iff]
  counts := h.countP_takes_le
  waits _ _ _ _ _ := h.answers_wait
  declined _ := h.celled.declined

/-- A thread that was notified and interrupted while it slept has returned `true`. Interrupted once
more, it has returned `true` from its next wait at once. -/
theorem interruption_twice : ∃ past s, Trace past s ∧
    (∃ x ∈ past, x.after.point 0 = .deciding ⟨0, 0, 1⟩ true true) ∧
    Answers 0 past 0 (.wait 0 0) (.bool true) ∧
    found 0 0 (deeds 0 past) = [(.queueing 0 0, true)] ∧
    past.countP (·.Takes 0) = 2 ∧ past.countP (·.Posts 0) = 2 ∧ Interruption past s := by
  obtain ⟨past, s, h, hp⟩ := exists_run id
    (fun past _ => (∃ x ∈ past, x.after.point 0 = .deciding ⟨0, 0, 1⟩ true true) ∧
      Answers 0 past 0 (.wait 0 0) (.bool true) ∧
      found 0 0 (deeds 0 past) = [(.queueing 0 0, true)] ∧
      past.countP (·.Takes 0) = 2 ∧ past.countP (·.Posts 0) = 2)
    (Label.enter 0 0 ++ Label.doze 0 0 ++ Label.enter 1 0 ++ Label.notifyFirst 1 0 ++
      Label.disturb 1 0 ++ [.call 1 1 (.release 0), .advance 1] ++
      List.replicate 4 (.advance 0) ++
      [.call 1 1 (.interrupt 0), .advance 1, .advance 1, .call 0 0 (.wait 0 0), .advance 0,
        .advance 0]) (by decide)
  simp only [decide_eq_true_eq] at hp
  obtain ⟨hx, ha, hf, ht, hc⟩ := hp
  exact ⟨past, s, h.trace, hx, ha, hf, ht, hc, h.trace.interruption⟩

end VmHost.Monitor
