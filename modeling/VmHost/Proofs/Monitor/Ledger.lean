import VmHost.Proofs.Monitor.Holding

/-!
# Calls and answers of a run

What callers see of a run is the calls they make and the answers they get. From these alone
`entries` counts how often an identity has entered a monitor and not left it yet, whatever the
monitor itself says.

* `Trace.serves`: in the middle of an operation, an OS thread serves the last call that it has made.
* `Run.counts`: what the callers count is what the monitor counts, or during a wait the depth that
  the thread comes back to.
-/
namespace VmHost.Monitor

open State Point

/-! ## Reading the past -/

/-- The call of a label, with the identity that is passed. -/
def Label.call? : Label → Option (Identity × Call)
  | .call _ i c => some (i, c)
  | _ => none

/-- The last call of an OS thread. -/
def lastCall (o : OsThread) : List Moment → Option (Identity × Call)
  | [] => none
  | x :: past => if x.label.actor = some o then x.label.call?.or (lastCall o past) else lastCall o past

/-- The answer that an OS thread gets with its step. -/
def Moment.answer? (x : Moment) (o : OsThread) : Option Reply :=
  match x.after.point o with
  | .rest r => r
  | _ => none

/-- The call that the newest step answers, and the answer. -/
def answered : List Moment → Option (Identity × Call × Reply)
  | [] => none
  | x :: past => do
    let o ← x.label.actor
    let (i, c) ← lastCall o (x :: past)
    let a ← x.answer? o
    return (i, c, a)

/-- With the newest step a call of an identity to enter a monitor succeeds. -/
def HasEntered (i : Identity) (m : MonitorId) (past : List Moment) : Prop :=
  answered past = some (i, .acquire m, .done) ∨
    answered past = some (i, .tryAcquire m, .bool true)

instance (i : Identity) (m : MonitorId) (past : List Moment) : Decidable (HasEntered i m past) :=
  inferInstanceAs (Decidable (_ ∨ _))

/-- How often an identity has entered a monitor and not left it yet. It leaves when it calls to. -/
def entries (i : Identity) (m : MonitorId) : List Moment → Nat
  | [] => 0
  | x :: past =>
    entries i m past + (if HasEntered i m (x :: past) then 1 else 0) -
      (if x.label.call? = some (i, .release m) then 1 else 0)

/-! ## The call that is served -/

/-- The operation at a point is the one that was called for. -/
def Point.Serves : Point → Call → Prop
  | .rest _, _ | .overflowed, _ => True
  | .entering m, c => c = .acquire m
  | .trying m, c => c = .tryAcquire m
  | .leaving m, c => c = .release m
  | .queueing m ms, c => c = .wait m ms
  | .consuming, c => ∃ m ms, c = .wait m ms
  | .yielding w, c | .clearing w, c | .parking w, c | .sleeping w _, c | .waking w, c
  | .deciding w .., c | .reentering w .., c => c = .wait w.monitor w.ms
  | .reaching m .., c | .signalling m .., c | .departing m .., c => c = .notify m ∨ c = .notifyAll m
  | .posting j, c | .rousing j, c | .posted j, c => c = .interrupt j
  | .asking j q, c => c = .query j q
  | .answering j _, c => ∃ q, c = .query j q

variable {home : Identity → OsThread} {s t u : State} {l : Label} {o : OsThread} {i j : Identity}
  {m : MonitorId} {past : List Moment} {p q : Point}

/-- The OS thread serves its last call, or rests. -/
def State.Serves (s : State) (o : OsThread) (past : List Moment) : Prop :=
  (∃ r, s.point o = .rest r) ∨ ∃ c, lastCall o past = some (s.who o, c) ∧ (s.point o).Serves c

theorem lastCall_self {x : Moment} (ho : x.label.actor = some o) :
    lastCall o (x :: past) = x.label.call?.or (lastCall o past) := if_pos ho

theorem lastCall_other {x : Moment} (ho : x.label.actor ≠ some o) :
    lastCall o (x :: past) = lastCall o past := if_neg ho

/-- An OS thread serves the call that it has just made. -/
theorem State.serves_call {c : Call} (hw : t.who o = i) (hp : (t.point o).Serves c) :
    t.Serves o (⟨s, .call o i c, t⟩ :: past) :=
  .inr ⟨c, by rw [hw]; exact lastCall_self rfl, hp⟩

/-- Within an operation an OS thread serves the same call. -/
theorem State.serves_next (h : s.Serves o past) (hl : l.actor = some o) (hc : l.call? = none)
    (hp : s.point o = q) (hr : ∀ r, q ≠ .rest r) (hq : ∀ c, q.Serves c → p.Serves c) :
    (u.place o (s.who o) p).Serves o (⟨s, l, u.place o (s.who o) p⟩ :: past) := by
  rcases h with ⟨r, h⟩ | ⟨c, hlc, hs⟩
  · exact absurd (hp.symm.trans h) (hr r)
  · refine .inr ⟨c, ?_, ?_⟩
    · rw [lastCall_self hl, hc, Option.none_or, who_place, if_pos rfl]
      exact hlc
    · rw [hp] at hs
      rw [point_place, if_pos rfl]
      exact hq c hs

theorem State.serves_rest {r : Option Reply} : (u.place o i (.rest r)).Serves o past :=
  .inl ⟨r, by simp⟩

theorem Trace.serves (h : Trace past s) (o : OsThread) : s.Serves o past := by
  induction h with
  | start => exact .inl ⟨none, point_start o⟩
  | @step past s t l _ hs ih =>
    have ht := step_transition hs
    by_cases ho : l.actor = some o
    · cases ht with
      | begins hr hb =>
        cases ho
        refine serves_call (by simp) ?_
        cases hb <;> simp [Point.Serves]
      | quits | refused =>
        cases ho
        exact serves_call (by simp) (by simp [Point.Serves])
      | notifies hr hc =>
        cases ho
        refine serves_call (by simp) ?_
        cases hc <;> simp [Point.Serves]
      | nests | unnests | notifiesNobody | enters | misses | leaves | declined | returns | delivered
      | posted | answers =>
        cases ho
        exact serves_rest
      | queues hp | yields hp | clears hp | parks hp | collects hp | decides hp | flags hp
      | signals hp | delivers hp | rouses hp =>
        cases ho
        exact serves_next ih rfl rfl hp (by simp) fun _ hc => hc
      | declines hp =>
        cases ho
        exact serves_next ih rfl rfl hp (by simp) fun _ hc => ⟨_, _, hc⟩
      | asks hp =>
        cases ho
        exact serves_next ih rfl rfl hp (by simp) fun _ hc => ⟨_, hc⟩
      | posts hp _ hq =>
        cases ho
        refine serves_next ih rfl rfl hp (by simp) fun c hc => ?_
        rw [hq]
        split <;> exact hc
      | wakes hp hl =>
        cases Option.some.inj ((wakes_actor hl).symm.trans ho)
        refine serves_next ih ho ?_ hp (by simp) fun _ hc => hc
        rcases hl with ⟨rfl, -⟩ | ⟨rfl, -⟩ <;> rfl
      | crashes =>
        rw [State.Serves, lastCall_self ho]
        exact ih
      | passes => cases ho
    · rw [State.Serves, lastCall_other ho, (ht.standing_other ho).1, (ht.standing_other ho).2]
      exact ih

theorem Run.serves (h : Run home past s) (o : OsThread) : s.Serves o past := h.trace.serves o

/-! ## The count of the callers and the count of the monitor -/

/-- The wait that an identity is in the middle of, from the moment that it has queued itself. -/
def State.waitOf (s : State) (home : Identity → OsThread) (i : Identity) : Option Waiting :=
  if s.who (home i) = i then (s.point (home i)).wait? else none

/-- How often an identity has entered a monitor, by the state: the depth if it owns the monitor, and
the depth that it comes back to if it waits. -/
def State.stake (s : State) (home : Identity → OsThread) (i : Identity) (m : MonitorId) : Nat :=
  if (s.monitors.get m).owner = some i then (s.monitors.get m).depth
  else match s.waitOf home i with
    | some w => if w.monitor = m then w.saved else 0
    | none => 0

theorem State.waitOf_eq_some_iff {w : Waiting} :
    s.waitOf home i = some w ↔ s.who (home i) = i ∧ (s.point (home i)).wait? = some w := by
  unfold waitOf
  split <;> simp_all

theorem answered_eq_some_iff {x : Moment} {c : Call} {a : Reply} (ho : x.label.actor = some o) :
    answered (x :: past) = some (i, c, a) ↔
      lastCall o (x :: past) = some (i, c) ∧ x.answer? o = some a := by
  simp only [answered, ho, bind, Option.bind]
  cases lastCall o (x :: past) <;> cases x.answer? o <;> simp [Prod.ext_iff, and_assoc]

/-- An OS thread that has an answer rests. -/
theorem Moment.answer?_eq_some_iff {x : Moment} {a : Reply} :
    x.answer? o = some a ↔ x.after.point o = .rest (some a) := by
  unfold Moment.answer?
  split <;> simp_all

/-- A call to enter has succeeded if it is the last one and its answer says so. -/
theorem hasEntered_iff {x : Moment} (ho : x.label.actor = some o) :
    HasEntered i m (x :: past) ↔ ∃ c a, lastCall o (x :: past) = some (i, c) ∧ c.Enters m a ∧
      x.after.point o = .rest (some a) := by
  simp only [HasEntered, answered_eq_some_iff ho, Moment.answer?_eq_some_iff]
  constructor
  · rintro (⟨hc, hp⟩ | ⟨hc, hp⟩)
    · exact ⟨_, _, hc, .acquire m, hp⟩
    · exact ⟨_, _, hc, .tryAcquire m, hp⟩
  · rintro ⟨c, a, hc, ⟨⟩, hp⟩
    · exact .inl ⟨hc, hp⟩
    · exact .inr ⟨hc, hp⟩

/-- Who enters what, when a call to enter succeeds. -/
theorem hasEntered_iff_of_enters {x : Moment} {j : Identity} {m' : MonitorId} {c : Call} {a : Reply}
    (ho : x.label.actor = some o) (hc : lastCall o (x :: past) = some (j, c)) (he : c.Enters m' a)
    (hp : x.after.point o = .rest (some a)) :
    HasEntered i m (x :: past) ↔ j = i ∧ m' = m := by
  rw [hasEntered_iff ho, hc]
  constructor
  · rintro ⟨c', a', ⟨⟩, he', -⟩
    cases he <;> cases he' <;> exact ⟨rfl, rfl⟩
  · rintro ⟨rfl, rfl⟩
    exact ⟨c, a, rfl, he, hp⟩

theorem lastCall_call {j : Identity} {c : Call} :
    lastCall o (⟨s, .call o j c, t⟩ :: past) = some (j, c) := lastCall_self rfl

/-- The last call is the same after a step within an operation. -/
theorem lastCall_advance : lastCall o (⟨s, .advance o, t⟩ :: past) = lastCall o past :=
  lastCall_self rfl

theorem hasEntered_call_iff {j : Identity} {m' : MonitorId} {c : Call} {a : Reply}
    (he : c.Enters m' a) (hp : t.point o = .rest (some a)) :
    HasEntered i m (⟨s, .call o j c, t⟩ :: past) ↔ j = i ∧ m' = m :=
  hasEntered_iff_of_enters rfl lastCall_call he hp

theorem hasEntered_advance_iff {j : Identity} {m' : MonitorId} {c : Call} {a : Reply}
    (hc : lastCall o past = some (j, c)) (he : c.Enters m' a) (hp : t.point o = .rest (some a)) :
    HasEntered i m (⟨s, .advance o, t⟩ :: past) ↔ j = i ∧ m' = m :=
  hasEntered_iff_of_enters rfl (lastCall_advance.trans hc) he hp

theorem State.Serves.call_of_enters {m' : MonitorId} {a : Reply} (hv : s.Serves o past)
    (hp : s.point o = .entering m' ∧ a = .done ∨ s.point o = .trying m' ∧ a = .bool true) :
    ∃ c, lastCall o past = some (s.who o, c) ∧ c.Enters m' a := by
  rcases hv with ⟨r, hr⟩ | ⟨c, hc, hs⟩
  · rcases hp with ⟨hp, -⟩ | ⟨hp, -⟩ <;> rw [hr] at hp <;> cases hp
  · refine ⟨c, hc, ?_⟩
    rcases hp with ⟨hp, rfl⟩ | ⟨hp, rfl⟩ <;> rw [hp] at hs <;> cases hs
    · exact .acquire m'
    · exact .tryAcquire m'

/-- Only a call to enter can enter at once. -/
theorem HasEntered.of_call {j : Identity} {c : Call}
    (h : HasEntered i m (⟨s, .call o j c, t⟩ :: past)) :
    ∃ a, c.Enters m a ∧ t.point o = .rest (some a) := by
  obtain ⟨c', a, hc, he, ha⟩ := (hasEntered_iff rfl).mp h
  rw [lastCall_call] at hc
  cases hc
  exact ⟨a, he, ha⟩

/-- Only an operation that was called to enter can enter. -/
theorem HasEntered.of_advance (hv : s.Serves o past) (hr : ∀ r, s.point o ≠ .rest r)
    (h : HasEntered i m (⟨s, .advance o, t⟩ :: past)) :
    ∃ c a, (s.point o).Serves c ∧ c.Enters m a ∧ t.point o = .rest (some a) := by
  obtain ⟨c, a, hc, he, ha⟩ := (hasEntered_iff rfl).mp h
  rcases hv with ⟨r, hr'⟩ | ⟨c', hc', hs⟩
  · exact absurd hr' (hr r)
  · rw [lastCall_advance, hc'] at hc
    cases hc
    exact ⟨c, a, hs, he, ha⟩

theorem Crashes.not_rest {v : Violation} (h : Crashes s o v) (r : Option Reply) :
    s.point o ≠ .rest r := by
  intro hr
  cases h with
  | seek m hs | reach m hs | give m hs | drop m hs =>
    rw [hr] at hs
    cases hs

theorem Held.owner_of_free (h : Held home s) (hn : (s.monitors.get m).lock.holder = none) :
    (s.monitors.get m).owner = none := by
  cases ho : (s.monitors.get m).owner with
  | none => rfl
  | some i =>
    rw [(h.owned m i ho).1] at hn
    cases hn

/-- The count of the callers is the count of the monitor. -/
def State.Counts (s : State) (home : Identity → OsThread) (past : List Moment) : Prop :=
  ∀ i m, entries i m past = s.stake home i m

/-! ### What leaves the count alone -/

/-- What is read off the OS thread of an identity stays if it is the same at both points. -/
theorem State.read_place {α : Type} {f : Point → α} {d : α} (hu : u.threads = s.threads)
    (hp : s.point o = q) (hf : f p = f q) (hi : i = s.who o ∨ f q = d) :
    (if (u.place o i p).who (home j) = j then f ((u.place o i p).point (home j)) else d) =
      if s.who (home j) = j then f (s.point (home j)) else d := by
  obtain ⟨hs, hw⟩ := standing_of_threads hu (home j)
  rw [who_place, point_place, hs, hw]
  by_cases ho : home j = o
  · rcases hi with rfl | hd
    · simp [ho, hf, hp]
    · simp [ho, hf, hp, hd]
  · rw [if_neg ho, if_neg ho]

theorem State.stake_congr (hw : t.waitOf home i = s.waitOf home i)
    (ho : (t.monitors.get m).owner = (s.monitors.get m).owner)
    (hd : (t.monitors.get m).depth = (s.monitors.get m).depth) :
    t.stake home i m = s.stake home i m := by
  rw [stake, stake, hw, ho, hd]

/-- The state `u` stands for `s` with changes that concern neither owners nor depths. -/
theorem State.stake_place (hu : u.threads = s.threads) (hp : s.point o = q)
    (hw : p.wait? = q.wait?) (hi : i = s.who o ∨ q.wait? = none)
    (ho : (u.monitors.get m).owner = (s.monitors.get m).owner)
    (hd : (u.monitors.get m).depth = (s.monitors.get m).depth) :
    (u.place o i p).stake home j m = s.stake home j m :=
  stake_congr (read_place hu hp hw hi) ho hd

/-- An identity that rests and does not own a monitor has no stake in it. -/
theorem State.stake_rest {r : Option Reply} (hr : s.point (home i) = .rest r)
    (ho : (s.monitors.get m).owner ≠ some i) : s.stake home i m = 0 := by
  have hw : s.waitOf home i = none := by
    rw [waitOf, hr]
    split <;> rfl
  rw [stake, if_neg ho, hw]

/-- A step that neither enters nor leaves keeps the count. -/
theorem entries_keep {x : Moment} (h : s.Counts home past) (he : ¬ HasEntered i m (x :: past))
    (hl : x.label.call? ≠ some (i, .release m)) (hs : t.stake home i m = s.stake home i m) :
    entries i m (x :: past) = t.stake home i m := by
  rw [entries, if_neg he, if_neg hl, hs]
  exact h i m

/-- Nobody enters with a step that ends within an operation. -/
theorem not_hasEntered (hl : l.actor = some o) (hp : ∀ a, p ≠ .rest (some a)) :
    ¬ HasEntered i m (⟨s, l, u.place o j p⟩ :: past) := by
  rw [hasEntered_iff hl]
  rintro ⟨c, a, -, -, ha⟩
  rw [point_place, if_pos rfl] at ha
  exact hp a ha

/-- Nobody enters with a call that is not one to enter. -/
theorem not_hasEntered_call {c : Call} (hc : ∀ m a, ¬ c.Enters m a) :
    ¬ HasEntered i m (⟨s, .call o j c, t⟩ :: past) := fun he => by
  obtain ⟨a, he, -⟩ := he.of_call
  exact hc m a he

theorem Begins.not_rest {c : Call} {a : Reply} (hb : Begins s i c p) (hc : c.Enters m a) :
    p ≠ .rest (some a) := by
  cases hb <;> cases hc <;> simp

/-! ### Every step -/

theorem counts_call {c : Call} (h : s.Counts home past) (hh : Held home s)
    (hf : (Label.call o j c).Fits home) (ht : Transition s (.call o j c) t) :
    t.Counts home (⟨s, .call o j c, t⟩ :: past) := by
  intro i m
  cases ht with
  | begins hr hb =>
    refine entries_keep h ?_ ?_ (stake_place rfl hr hb.wait? (.inr rfl) rfl rfl)
    · intro he
      obtain ⟨a, he, ha⟩ := he.of_call
      rw [point_place, if_pos rfl] at ha
      exact hb.not_rest he ha
    · rintro ⟨⟩
      cases hb with
      | overflow _ _ _ hc => cases hc
      | underflow _ hi hd =>
        have := (hh.owned m j hi).2
        rw [hd] at this
        cases this
  | @refused _ _ _ r v hr hc =>
    show entries i m (⟨s, .call o j c, (s.violate o v).place o j (.rest none)⟩ :: past) =
      ((s.violate o v).place o j (.rest none)).stake home i m
    have hn : ¬ HasEntered i m (⟨s, .call o j c, (s.violate o v).place o j (.rest none)⟩ :: past) :=
      not_hasEntered rfl (by simp)
    have ht : ((s.violate o v).place o j (.rest none)).stake home i m = s.stake home i m :=
      stake_place (u := s.violate o v) rfl hr rfl (.inr rfl) rfl rfl
    by_cases hl : (Label.call o j c).call? = some (i, .release m)
    · cases hl
      cases hc with
      | notOwner hn' ho =>
        cases hn'
        -- A refused call to leave finds the count at zero.
        have hz : s.stake home j m = 0 := stake_rest (by rw [hf rfl]; exact hr) ho
        rw [entries, if_neg hn, ht, h j m, hz, Nat.zero_add, Nat.zero_sub]
    · exact entries_keep h hn hl ht
  | nests hr hc hi hd =>
    have : c ≠ .release m := by rintro rfl; cases hc
    have := h i m
    simp only [entries, hasEntered_call_iff hc, point_place, if_true]
    grind [stake, waitOf, wait?, Label.call?, Label.Fits]
  | unnests hr hi hd | quits hr hi hd =>
    have := h i m
    rw [entries, if_neg (not_hasEntered_call fun _ _ => by rintro ⟨⟩)]
    grind [stake, waitOf, wait?, Label.call?, Label.Fits, Call.isNamed]
  | notifiesNobody hr hc | notifies hr hc =>
    refine entries_keep h (not_hasEntered_call fun _ _ => ?_) ?_ ?_
    · cases hc <;> rintro ⟨⟩
    · cases hc <;> simp [Label.call?]
    · exact stake_place rfl hr rfl (.inr rfl) (s.onMonitor_same Monitor.owner fun _ => rfl)
        (s.onMonitor_same Monitor.depth fun _ => rfl)
  | wakes _ hl => rcases hl with ⟨⟨⟩, -⟩ | ⟨⟨⟩, -⟩

/-- A step that goes on within an operation. -/
theorem counts_next (h : s.Counts home past) (hl : l.actor = some o) (hc : l.call? = none)
    (hp : s.point o = q) (hn : ∀ a, p ≠ .rest (some a)) (hw : p.wait? = q.wait?)
    (hu : u.threads = s.threads)
    (ho : ∀ m, (u.monitors.get m).owner = (s.monitors.get m).owner)
    (hd : ∀ m, (u.monitors.get m).depth = (s.monitors.get m).depth) :
    (u.place o (s.who o) p).Counts home (⟨s, l, u.place o (s.who o) p⟩ :: past) := fun i m =>
  entries_keep h (not_hasEntered hl hn) (by simp [hc])
    (stake_place hu hp hw (.inl rfl) (ho m) (hd m))

/-- A step that ends an operation other than one to enter. -/
theorem counts_end {a : Option Reply} (h : s.Counts home past) (hv : s.Serves o past)
    (hp : s.point o = q) (hr : ∀ r, q ≠ .rest r)
    (hn : ∀ c m r, q.Serves c → c.Enters m r → a ≠ some r) (hw : q.wait? = none)
    (hu : u.threads = s.threads)
    (ho : ∀ m, (u.monitors.get m).owner = (s.monitors.get m).owner)
    (hd : ∀ m, (u.monitors.get m).depth = (s.monitors.get m).depth) :
    (u.place o (s.who o) (.rest a)).Counts home
      (⟨s, .advance o, u.place o (s.who o) (.rest a)⟩ :: past) := by
  intro i m
  refine entries_keep h ?_ (by simp [Label.call?])
    (stake_place hu hp hw.symm (.inl rfl) (ho m) (hd m))
  intro he
  obtain ⟨c, r, hc, he, ha⟩ := he.of_advance hv (by rw [hp]; exact hr)
  rw [hp] at hc
  rw [point_place, if_pos rfl, rest.injEq] at ha
  exact hn c m r hc he ha

theorem counts_advance (h : s.Counts home past) (hh : Held home s) (hv : s.Serves o past)
    (ht : Transition s (.advance o) t) : t.Counts home (⟨s, .advance o, t⟩ :: past) := by
  cases ht with
  | enters hp hn =>
    intro i m
    obtain ⟨c, hc, he⟩ := hv.call_of_enters hp
    have := h i m
    have := hh.owner_of_free hn
    have := hh.home_who o (by rcases hp with ⟨hp, -⟩ | ⟨hp, -⟩ <;> simp [hp, tie])
    simp only [entries, hasEntered_advance_iff hc he, point_place, if_true]
    grind [stake, waitOf, wait?, Label.call?]
  | @queues _ m' ms hp =>
    intro i m
    refine entries_keep h (not_hasEntered rfl (by simp)) (by simp [Label.call?]) ?_
    have := hh.inside (o := o) (m := m') (by rw [hp]; rfl)
    have := hh.home_who o (by simp [hp, tie])
    grind [stake, waitOf, wait?]
  | returns hp hn =>
    intro i m
    refine entries_keep h ?_ (by simp [Label.call?]) ?_
    · intro he
      obtain ⟨c, a, hc, he, ha⟩ := he.of_advance hv (by simp [hp])
      rw [hp] at hc
      cases he <;> cases hc
    · have := hh.home_who o (by simp [hp, tie])
      have := hh.owner_of_free hn
      grind [stake, waitOf, wait?]
  | wakes hp hl =>
    exact counts_next h (wakes_actor hl) rfl hp (by simp) rfl rfl (fun _ => rfl) fun _ => rfl
  | yields hp =>
    exact counts_next h rfl rfl hp (by simp) rfl rfl
      (fun _ => s.onMonitor_same Monitor.owner fun _ => rfl) fun _ =>
        s.onMonitor_same Monitor.depth fun _ => rfl
  | declines hp | clears hp | parks hp | collects hp | decides hp | flags hp | signals hp
  | delivers hp | rouses hp | asks hp =>
    exact counts_next h rfl rfl hp (by simp) rfl rfl (fun _ => rfl) fun _ => rfl
  | posts hp _ hq =>
    refine counts_next h rfl rfl hp ?_ ?_ rfl (fun _ => rfl) fun _ => rfl
    · rw [hq]
      split <;> simp
    · rw [hq]
      split <;> rfl
  | crashes hc =>
    intro i m
    refine entries_keep h ?_ (by simp [Label.call?]) rfl
    intro he
    obtain ⟨c, a, -, -, ha⟩ := he.of_advance hv hc.not_rest
    exact hc.not_rest _ ha
  | leaves hp =>
    refine counts_end h hv hp (by simp) ?_ rfl rfl
      (fun _ => s.onMonitor_same Monitor.owner fun _ => rfl) fun _ =>
        s.onMonitor_same Monitor.depth fun _ => rfl
    intro c m r hc he
    cases he <;> cases hc
  | misses hp | declined hp | delivered hp | posted hp | answers hp =>
    refine counts_end h hv hp (by simp) ?_ rfl rfl (fun _ => rfl) fun _ => rfl
    intro c m r hc he
    cases he <;> simp_all [Point.Serves]

theorem counts_start : State.start.Counts home [] := by
  intro i m
  simp [entries, stake, waitOf, Monitor.free, wait?]

/-- In every state of a disciplined run, callers and monitors agree on who is how deep inside. -/
theorem Run.counts (h : Run home past s) : s.Counts home past := by
  induction h with
  | start => exact counts_start
  | @step past s t l hr hf hs ih =>
    have ht := step_transition hs
    cases l with
    | call o i c => exact counts_call ih hr.held hf ht
    | advance o => exact counts_advance ih hr.held (hr.serves o) ht
    | giveUp o =>
      cases ht with
      | wakes hp hl =>
        exact counts_next ih (wakes_actor hl) rfl hp (by simp) rfl rfl (fun _ => rfl) fun _ => rfl
    | pass ms =>
      cases ht with
      | passes =>
        exact fun i m => entries_keep ih (by simp [HasEntered, answered, Label.actor])
          (by simp [Label.call?]) rfl
      | wakes _ hl => rcases hl with ⟨⟨⟩, -⟩ | ⟨⟨⟩, -⟩

end VmHost.Monitor
