import VmHost.Proofs.Monitor.Episode
import VmHost.Proofs.Monitor.Serial

/-!
# The contract of the monitor operations

What an operation comes to is decided by the state in which it is called. `State.due` is the table:
for each operation, whether it answers, blocks or violates a rule. Two notions of a holder appear in
it, since the owner of a monitor is an identity, while its mutex belongs to an OS thread.

* `Tidy.comes`: an operation that nobody disturbs comes to what is due.
* `Serial.tidy`: whatever operations are carried out one at a time, monitors stay in order.
* `Serial.contract`: which operations break a rule, and which of them block.
-/
namespace VmHost.Monitor

open State Point

inductive Outcome
  /-- An OS thread has violated a rule. -/
  | violates (o : OsThread) (v : Violation)
  | answers (r : Reply)
  /-- The depth of a monitor would leave the range of its counter. -/
  | overflows
  | blocks
  deriving DecidableEq

def State.outcome (s : State) (o : OsThread) : Outcome :=
  match s.violation, s.point o with
  | some (x, v), _ => .violates x v
  | none, .rest (some r) => .answers r
  | none, .overflowed => .overflows
  | none, _ => .blocks

section

variable (x : Monitor) (o : OsThread) (i : Identity)

/-- What becomes of an operation that is for the owner of a monitor only. -/
def asked (operation : String) (a : Outcome) : Outcome :=
  if x.owner = some i then a else .violates o (.notOwner operation)

/-- What becomes of entering a monitor as its owner. -/
def deeper (r : Reply) : Outcome :=
  if x.depth < depthLimit then .answers r else .overflows

/-- What becomes of taking the mutex of a monitor. -/
def locked : Outcome :=
  if x.lock.holder = none then .answers .done
  else if x.lock.holder = some o then
    .violates o (.unexpected "pthread_mutex_lock" Mutex.deadlockCode)
  else .blocks

end

/-- What an operation comes to, by the state in which it is called. -/
def State.due (s : State) (o : OsThread) (i : Identity) : Call → Outcome
  | .acquire m =>
    let x := s.monitors.get m
    if x.owner = some i then x.deeper .done else x.locked o
  | .tryAcquire m =>
    let x := s.monitors.get m
    if x.owner = some i then x.deeper (.bool true)
    else .answers (.bool (decide (x.lock.holder = none)))
  | .release m =>
    let x := s.monitors.get m
    x.asked o i "release"
      (if x.depth = 1 ∧ x.lock.holder ≠ some o then .violates o .lockNotHeld else .answers .done)
  | .wait m _ =>
    let x := s.monitors.get m
    x.asked o i "wait"
      (if (s.parks.get i).interrupted then .answers (.bool true)
        else if x.lock.holder = some o then .blocks else .violates o .lockNotHeld)
  | .notify m => (s.monitors.get m).asked o i "notify" (.answers .done)
  | .notifyAll m => (s.monitors.get m).asked o i "notify_all" (.answers .done)
  | .depth m =>
    let x := s.monitors.get m
    x.asked o i "depth" (.answers (.count x.depth))
  | .waiterCount m =>
    let x := s.monitors.get m
    x.asked o i "waiter_count" (.answers (.count x.queue.length))
  | .dispose m =>
    if (s.monitors.get m).owner.isSome then .violates o (.disposedInUse "monitor")
    else .answers .done
  | .interrupt _ => .answers .done
  | .query j q => .answers (q.answer (s.parks.get j))

/-- The rule that an operation breaks, by the state in which it is called. -/
inductive Breaks (s : State) (o : OsThread) (i : Identity) : Call → Violation → Prop
  | notOwner {c m operation} : c.Needs m operation → (s.monitors.get m).owner ≠ some i →
      Breaks s o i c (.notOwner operation)
  | again (m) : (s.monitors.get m).owner ≠ some i → (s.monitors.get m).lock.holder = some o →
      Breaks s o i (.acquire m) (.unexpected "pthread_mutex_lock" Mutex.deadlockCode)
  | release (m) : (s.monitors.get m).owner = some i → (s.monitors.get m).depth = 1 →
      (s.monitors.get m).lock.holder ≠ some o → Breaks s o i (.release m) .lockNotHeld
  | wait (m ms) : (s.monitors.get m).owner = some i → (s.parks.get i).interrupted = false →
      (s.monitors.get m).lock.holder ≠ some o → Breaks s o i (.wait m ms) .lockNotHeld
  | owned (m) : (s.monitors.get m).owner ≠ none →
      Breaks s o i (.dispose m) (.disposedInUse "monitor")

/-- What holds of monitors between operations that are carried out one at a time, and what a further
operation comes to. -/
structure Contract (s : State) : Prop where
  paired : ∀ m, Paired (s.monitors.get m)
  /-- An operation that goes on after it was blocked breaks no rule. -/
  resumes : ∀ l t, l.call? = none → s.step l = some t → t.violation = none
  /-- An operation comes to something. -/
  ends : ∀ o i c r, s.Calm → s.point o = .rest r → ∃ t, Performs s o i c t
  /-- It comes to what is due. -/
  comes : ∀ o i c t, s.Calm → Performs s o i c t → t.outcome o = s.due o i c
  /-- It ends everything if and only if it breaks a rule. -/
  aborts : ∀ o i c t, s.Calm → Performs s o i c t →
    ∀ x v, t.violation = some (x, v) ↔ x = o ∧ Breaks s o i c v
  /-- Entering a monitor blocks if and only if somebody else owns it and its mutex is held by another
  OS thread. -/
  blocks : ∀ o i m t, s.Calm → Performs s o i (.acquire m) t →
    ((t.violation = none ∧ ∃ h, t.Awaits o (.monitor m) h) ↔
      (s.monitors.get m).owner ≠ some i ∧ ∃ h, (s.monitors.get m).lock.holder = some h ∧ h ≠ o)
  /-- An attempt to enter a monitor fails if and only if somebody else owns it and its mutex is held,
  be it by the same OS thread. -/
  fails : ∀ o i m t, s.Calm → Performs s o i (.tryAcquire m) t →
    ((t.violation = none ∧ t.point o = .rest (some (.bool false))) ↔
      (s.monitors.get m).owner ≠ some i ∧ (s.monitors.get m).lock.holder ≠ none)

/-- Going on alone, an OS thread brings its operation to this outcome and leaves the monitors in
order. -/
def Leads (o : OsThread) (s : State) (a : Outcome) : Prop :=
  ∃ t, Alone o s t ∧ t.outcome o = a ∧
    (t.violation = none → (∀ m, Paired (t.monitors.get m)) ∧ t.Placed o)

/-- An operation of an OS thread comes to this outcome. -/
def State.Comes (s : State) (o : OsThread) (i : Identity) (c : Call) (a : Outcome) : Prop :=
  ∃ t, s.step (.call o i c) = some t ∧ Leads o t a

variable {s t : State} {o : OsThread} {i : Identity} {c : Call} {m : MonitorId} {w : Waiting}
  {a : Outcome} {r : Reply} {v : Violation}

/-! ## Going on alone

What a point leads to is found from the end of an operation backwards, one step at a time. -/

theorem point_placed {p : Point} : (s.place o i p).point o = p := by simp

namespace Leads

theorem step (hs : s.step (.advance o) = some t) (h : Leads o t a) : Leads o s a := by
  obtain ⟨u, ha, h⟩ := h
  exact ⟨u, .step hs ha, h⟩

theorem violates (hv : s.violation = some (o, v)) : Leads o s (.violates o v) := by
  refine ⟨s, .stops fun t ht => ?_, by simp [outcome, hv], fun h => ?_⟩
  · rw [step_violation ht] at hv
    cases hv
  · rw [h] at hv
    cases hv

section

variable (hv : s.violation = none) (hq : ∀ m, Paired (s.monitors.get m))
include hv hq

theorem answers (hp : s.point o = .rest (some r)) : Leads o s (.answers r) :=
  ⟨s, .stops (Blocked.rests _ hp).no_step, by simp [outcome, hv, hp],
    fun _ => ⟨hq, by simp [Placed, hp]⟩⟩

theorem overflows (hp : s.point o = .overflowed) : Leads o s .overflows :=
  ⟨s, .stops (Blocked.overflowed hp).no_step, by simp [outcome, hv, hp],
    fun _ => ⟨hq, by simp [Placed, hp]⟩⟩

omit hq in
theorem crashes (hc : Crashes s o v) : Leads o s (.violates o v) :=
  step ((Transition.crashes hc).step hv) (violates (violation_violate ..))

/-! ### Taking the mutex of a monitor -/

theorem entering (hp : s.point o = .entering m) : Leads o s ((s.monitors.get m).locked o) := by
  unfold locked
  split
  · rename_i hn
    refine step ((Transition.enters (.inl ⟨hp, rfl⟩) hn).step hv) (answers hv ?_ point_placed)
    exact paired_onMonitor hq (by simp [Paired, Mutex.isHeld])
  split
  · rename_i hh
    exact crashes hv (.seek m (by rw [hp]; rfl) hh)
  · rename_i hn hh
    obtain ⟨x, hx⟩ := Option.ne_none_iff_exists'.mp hn
    have hb : s.Blocked o := .monitor m x (by rw [hp]; rfl) hx fun e => hh (e ▸ hx)
    exact ⟨s, .stops hb.no_step, by simp [outcome, hv, hp], fun _ => ⟨hq, by simp [Placed, hp, hh]⟩⟩

theorem trying (hp : s.point o = .trying m) :
    Leads o s (.answers (.bool (decide ((s.monitors.get m).lock.holder = none)))) := by
  by_cases hn : (s.monitors.get m).lock.holder = none
  · rw [decide_eq_true hn]
    refine step ((Transition.enters (.inr ⟨hp, rfl⟩) hn).step hv) (answers hv ?_ point_placed)
    exact paired_onMonitor hq (by simp [Paired, Mutex.isHeld])
  · rw [decide_eq_false hn]
    exact step ((Transition.misses hp hn).step hv) (answers hv hq point_placed)

/-! ### Giving it up -/

omit hq in
theorem leaving (hp : s.point o = .leaving m)
    (hq : ∀ m', Paired ((s.onMonitor m ({ · with lock := .free })).monitors.get m'))
    (ha : a = if (s.monitors.get m).lock.holder = some o then .answers .done
      else .violates o .lockNotHeld) : Leads o s a := by
  subst ha
  split
  · rename_i hh
    exact step ((Transition.leaves hp hh).step hv) (answers hv hq point_placed)
  · rename_i hh
    exact crashes hv (.give m (by rw [hp]; rfl) hh)

theorem sleeping {since : Nat} (hp : s.point o = .sleeping w since)
    (he : (s.parks.get (s.who o)).signaled = false)
    (hh : (s.monitors.get w.monitor).lock.holder ≠ some o) (hd : 1 ≤ w.saved) :
    Leads o s .blocks :=
  ⟨s, .stops (Blocked.asleep w since hp he).no_step, by simp [outcome, hv, hp],
    fun _ => ⟨hq, by simp [Placed, hp, hh, hd]⟩⟩

theorem parking (hp : s.point o = .parking w) (hc : (s.parks.get (s.who o)).lock.holder = some o)
    (he : (s.parks.get (s.who o)).signaled = false)
    (hh : (s.monitors.get w.monitor).lock.holder ≠ some o) (hd : 1 ≤ w.saved) :
    Leads o s .blocks :=
  step ((Transition.parks hp hc).step hv) (sleeping hv hq point_placed (by simpa using he) hh hd)

theorem clearing (hp : s.point o = .clearing w) (hc : (s.parks.get (s.who o)).lock.holder = some o)
    (hh : (s.monitors.get w.monitor).lock.holder ≠ some o) (hd : 1 ≤ w.saved) :
    Leads o s .blocks :=
  step ((Transition.clears hp).step hv)
    (parking hv hq point_placed (by simpa using hc) (by simp) hh hd)

omit hq in
theorem yielding (hp : s.point o = .yielding w)
    (hc : (s.parks.get (s.who o)).lock.holder = some o)
    (hq : ∀ m', Paired ((s.onMonitor w.monitor ({ · with lock := .free })).monitors.get m'))
    (hd : 1 ≤ w.saved)
    (ha : a = if (s.monitors.get w.monitor).lock.holder = some o then .blocks
      else .violates o .lockNotHeld) : Leads o s a := by
  subst ha
  split
  · rename_i hh
    -- The event is cleared while the park cell is held, so the thread does sleep.
    exact step ((Transition.yields hp hh).step hv)
      (clearing hv hq point_placed (by simpa using hc) (by simp [Mutex.free]) hd)
  · rename_i hh
    exact crashes hv (.give w.monitor (by rw [hp]; rfl) hh)

theorem consuming (hp : s.point o = .consuming)
    (hc : (s.parks.get (s.who o)).lock.holder = some o) : Leads o s (.answers (.bool true)) :=
  step ((Transition.declined hp hc).step hv) (answers hv hq point_placed)

theorem queueing {ms : Nat} (hp : s.point o = .queueing m ms)
    (hc : (s.parks.get (s.who o)).lock.holder = none)
    (ho : (s.monitors.get m).owner = some (s.who o))
    (ha : a = if (s.parks.get (s.who o)).interrupted then .answers (.bool true)
      else if (s.monitors.get m).lock.holder = some o then .blocks
      else .violates o .lockNotHeld) : Leads o s a := by
  cases hi : (s.parks.get (s.who o)).interrupted with
  | true =>
    rw [hi, if_pos rfl] at ha
    exact ha ▸ step ((Transition.declines hp hc hi).step hv)
      (consuming hv hq point_placed (by simp))
  | false =>
    rw [hi, if_neg Bool.false_ne_true] at ha
    have hd : 1 ≤ (s.monitors.get m).depth := (hq m).1.mp (by simp [ho])
    refine step ((Transition.queues hp hc hi).step hv) ?_
    refine yielding hv point_placed (by simp) (fun m' => ?_) hd (by simpa using ha)
    simp only [get_onMonitor, monitors_place, monitors_onPark]
    split
    · simp [Paired, Mutex.free, Mutex.isHeld]
    · exact hq m'

/-! ### Notifying, interrupting and asking -/

theorem reaching {j : Identity} {others : List Identity} (hp : s.point o = .reaching m j others)
    (hc : ∀ j, (s.parks.get j).lock.holder = none) :
    Leads o s (.answers .done) := by
  induction others generalizing s j with
  | nil =>
    refine step ((Transition.flags hp (hc j)).step hv) ?_
    refine step ((Transition.signals point_placed).step hv) ?_
    refine step ((Transition.delivered point_placed (by simp)).step hv) ?_
    exact answers hv hq point_placed
  | cons k others ih =>
    refine step ((Transition.flags hp (hc j)).step hv) ?_
    refine step ((Transition.signals point_placed).step hv) ?_
    refine step ((Transition.delivers point_placed (by simp)).step hv) ?_
    refine ih hv hq point_placed fun i => ?_
    simp only [parks_place, get_onPark]
    split <;> simp [Mutex.free, hc]

theorem posted {j : Identity} (hp : s.point o = .posted j)
    (hc : (s.parks.get j).lock.holder = some o) :
    Leads o s (.answers .done) :=
  step ((Transition.posted hp hc).step hv) (answers hv hq point_placed)

theorem posting {j : Identity} (hp : s.point o = .posting j)
    (hc : (s.parks.get j).lock.holder = none) :
    Leads o s (.answers .done) := by
  refine step ((Transition.posts hp hc rfl).step hv) ?_
  split
  · refine step ((Transition.rouses point_placed).step hv) ?_
    exact posted hv hq point_placed (by simp)
  · exact posted hv hq point_placed (by simp)

theorem asking {j : Identity} {q : Query} (hp : s.point o = .asking j q)
    (hc : (s.parks.get j).lock.holder = none) :
    Leads o s (.answers (q.answer (s.parks.get j))) := by
  refine step ((Transition.asks hp hc).step hv) ?_
  refine step ((Transition.answers point_placed (by simp)).step hv) ?_
  exact answers hv hq point_placed

end

end Leads

/-! ## Whole operations -/

namespace State

section

variable {r' : Option Reply} (hv : s.violation = none) (hr : s.point o = .rest r')
include hv hr

theorem comes_begins {p : Point} (hb : Begins s i c p) (h : Leads o (s.place o i p) a) :
    s.Comes o i c a :=
  ⟨_, (Transition.begins hr hb).step hv, h⟩

theorem comes_refused (hc : Refused s i c v) : s.Comes o i c (.violates o v) :=
  ⟨_, (Transition.refused hr hc).step hv, .violates (violation_violate ..)⟩

/-- An operation for the owner only, and what it comes to for the owner. -/
theorem comes_asked {operation : String} (hn : c.Needs m operation)
    (h : (s.monitors.get m).owner = some i → s.Comes o i c a) :
    s.Comes o i c ((s.monitors.get m).asked o i operation a) := by
  unfold asked
  split
  · rename_i ho
    exact h ho
  · rename_i ho
    exact comes_refused hv hr (.notOwner hn ho)

variable (hq : ∀ m, Paired (s.monitors.get m)) (ho : (s.monitors.get m).owner = some i)
include hq ho

theorem comes_deeper (hn : c.Enters m r) : s.Comes o i c ((s.monitors.get m).deeper r) := by
  unfold deeper
  split
  · rename_i hd
    refine ⟨_, (Transition.nests hr hn ho hd).step hv, .answers hv ?_ point_placed⟩
    have hm := hq m
    exact paired_onMonitor hq (by simp_all [Paired])
  · rename_i hd
    exact comes_begins hv hr (.overflow c m r hn ho (Nat.le_of_not_lt hd))
      (.overflows hv hq point_placed)

theorem comes_release : s.Comes o i (.release m)
      (if (s.monitors.get m).depth = 1 ∧ (s.monitors.get m).lock.holder ≠ some o then
        .violates o .lockNotHeld else .answers .done) := by
  have hm := hq m
  have hd : 1 ≤ (s.monitors.get m).depth := hm.1.mp (by simp [ho])
  obtain hd | ⟨d, hd⟩ : (s.monitors.get m).depth = 1 ∨ ∃ d, (s.monitors.get m).depth = d + 2 := by
    rcases Nat.eq_or_lt_of_le hd with hd | hd
    · exact .inl hd.symm
    · exact .inr ⟨_, (Nat.sub_add_cancel hd).symm⟩
  · refine ⟨_, (Transition.quits hr ho hd).step hv, ?_⟩
    refine .leaving hv point_placed (fun m' => ?_) (by simp [hd, ite_not])
    simp only [get_onMonitor, monitors_place]
    split
    · simp [Paired, Mutex.free, Mutex.isHeld]
    · exact hq m'
  · refine ⟨_, (Transition.unnests hr ho hd).step hv, ?_⟩
    rw [if_neg (by omega)]
    exact .answers hv (paired_onMonitor hq (by simp_all [Paired])) point_placed

theorem comes_notifies {q rest : List Identity} (hf : ∀ j, (s.parks.get j).lock.holder = none)
    (hn : c.Notifies m q rest) (hl : (s.monitors.get m).queue = q ++ rest) :
    s.Comes o i c (.answers .done) := by
  have hm := hq m
  cases q with
  | nil =>
    obtain rfl : rest = [] := by cases hn <;> rfl
    refine ⟨_, (Transition.notifiesNobody hr hn ho hl).step hv, ?_⟩
    exact .answers hv (paired_onMonitor hq hm) point_placed
  | cons j q =>
    refine ⟨_, (Transition.notifies hr hn ho hl).step hv, ?_⟩
    exact .reaching hv (paired_onMonitor hq hm) point_placed hf

end

end State

/-- An operation that nobody disturbs comes to what is due. -/
theorem Tidy.comes (h : Tidy s) (hc : s.Calm) (hv : s.violation = none) {r' : Option Reply}
    (hr : s.point o = .rest r') : s.Comes o i c (s.due o i c) := by
  have hq := h.paired
  have hf := h.cell_free hc
  cases c with
  | acquire m =>
    simp only [due]
    split
    · rename_i ho
      exact comes_deeper hv hr hq ho (.acquire m)
    · rename_i ho
      exact comes_begins hv hr (.acquire m ho) (.entering hv hq point_placed)
  | tryAcquire m =>
    simp only [due]
    split
    · rename_i ho
      exact comes_deeper hv hr hq ho (.tryAcquire m)
    · rename_i ho
      exact comes_begins hv hr (.tryAcquire m ho) (.trying hv hq point_placed)
  | release m => exact comes_asked hv hr (.release m) (comes_release hv hr hq)
  | wait m ms =>
    refine comes_asked hv hr (.wait m ms) fun ho => comes_begins hv hr (.wait m ms ho) ?_
    exact .queueing hv hq point_placed (hf _) (by simpa using ho)
      (by rw [who_place, if_pos rfl]; rfl)
  | notify m =>
    refine comes_asked hv hr (.notify m) fun ho => ?_
    cases hl : (s.monitors.get m).queue with
    | nil => exact comes_notifies hv hr hq ho hf (.nobody m) hl
    | cons j rest => exact comes_notifies hv hr hq ho hf (.one m j rest) hl
  | notifyAll m =>
    exact comes_asked hv hr (.notifyAll m) fun ho =>
      comes_notifies hv hr hq ho hf (.all m _) (List.append_nil _).symm
  | depth m =>
    exact comes_asked hv hr (.depth m) fun ho =>
      comes_begins hv hr (.depth m ho) (.answers hv hq point_placed)
  | waiterCount m =>
    exact comes_asked hv hr (.waiterCount m) fun ho =>
      comes_begins hv hr (.waiterCount m ho) (.answers hv hq point_placed)
  | dispose m =>
    simp only [due]
    split
    · rename_i ho
      exact comes_refused hv hr (.owned m (Option.isSome_iff_ne_none.mp ho))
    · rename_i ho
      have ho : (s.monitors.get m).owner = none := by simpa using ho
      exact comes_begins hv hr (.dispose m ho ((hq m).owner_eq_none_iff.mp ho))
        (.answers hv hq point_placed)
  | interrupt j =>
    exact comes_begins hv hr (.interrupt j) (.posting hv hq point_placed (hf j))
  | query j q =>
    exact comes_begins hv hr (.query j q) (.asking (s := s.place o i _) hv hq point_placed (hf j))

theorem Tidy.performs (h : Tidy s) (hc : s.Calm) (hp : Performs s o i c t) :
    t.outcome o = s.due o i c ∧ (t.violation = none → Tidy t) := by
  have ⟨u, hs, _⟩ := hp
  obtain ⟨r', hr⟩ := (step_transition hs).rest_of_call
  obtain ⟨u', hs', t', ha, ho, hq⟩ := h.comes (i := i) (c := c) hc (step_violation hs) hr
  obtain rfl : t' = t := Performs.unique ⟨u', hs', ha⟩ hp
  exact ⟨ho, fun hv => h.apart hp.apart (hq hv).1 (hq hv).2⟩

/-- Whatever operations are carried out one at a time, monitors stay in order. -/
theorem Serial.tidy (h : Serial s) (hv : s.violation = none) : Tidy s := by
  induction h with
  | start => exact .start
  | call _ hc hp ih =>
    have ⟨u, hs, _⟩ := hp
    exact ((ih (step_violation hs)).performs hc hp).2 hv
  | proceed _ hl hs ih => exact (ih (step_violation hs)).proceed hl hs

/-! ## What an operation violates -/

/-- An operation for the owner only breaks the rule that says so, or one that it breaks as the
owner. -/
theorem Breaks.of_asked {x : OsThread} {operation : String} (hn : c.Needs m operation)
    (h : (s.monitors.get m).asked o i operation a = .violates x v)
    (hb : (s.monitors.get m).owner = some i → a = .violates x v → x = o ∧ Breaks s o i c v) :
    x = o ∧ Breaks s o i c v := by
  unfold asked at h
  split at h
  · rename_i ho
    exact hb ho h
  · rename_i ho
    cases h
    exact ⟨rfl, .notOwner hn ho⟩

theorem State.due_eq_violates_iff {x : OsThread} :
    s.due o i c = .violates x v ↔ x = o ∧ Breaks s o i c v := by
  constructor
  · intro h
    cases c with
    | acquire m =>
      simp only [due, deeper, locked] at h
      split at h
      · split at h <;> cases h
      · rename_i ho
        split at h
        · cases h
        split at h
        · rename_i hh
          cases h
          exact ⟨rfl, .again m ho hh⟩
        · cases h
    | tryAcquire m =>
      simp only [due, deeper] at h
      split at h
      · split at h <;> cases h
      · cases h
    | release m =>
      refine Breaks.of_asked (.release m) h fun ho h => ?_
      split at h
      · rename_i hd
        cases h
        exact ⟨rfl, .release m ho hd.1 hd.2⟩
      · cases h
    | wait m ms =>
      refine Breaks.of_asked (.wait m ms) h fun ho h => ?_
      split at h
      · cases h
      split at h
      · cases h
      · rename_i hi hh
        cases h
        exact ⟨rfl, .wait m ms ho (by simpa using hi) hh⟩
    | notify m => exact Breaks.of_asked (.notify m) h nofun
    | notifyAll m => exact Breaks.of_asked (.notifyAll m) h nofun
    | depth m => exact Breaks.of_asked (.depth m) h nofun
    | waiterCount m => exact Breaks.of_asked (.waiterCount m) h nofun
    | dispose m =>
      simp only [due] at h
      split at h
      · rename_i ho
        cases h
        exact ⟨rfl, .owned m (Option.isSome_iff_ne_none.mp ho)⟩
      · cases h
    | interrupt j | query j q => cases h
  · rintro ⟨rfl, hb⟩
    cases hb with
    | notOwner hn ho => cases hn <;> exact if_neg ho
    | again m ho hh => simp [due, locked, ho, hh]
    | release m ho hd hh => simp [due, asked, ho, hd, hh]
    | wait m ms ho hi hh => simp [due, asked, ho, hi, hh]
    | owned m ho => exact if_pos (Option.isSome_iff_ne_none.mpr ho)

theorem State.outcome_eq_violates_iff {x : OsThread} :
    s.outcome o = .violates x v ↔ s.violation = some (x, v) := by
  unfold outcome
  split <;> simp_all

theorem State.outcome_eq_answers_iff :
    s.outcome o = .answers r ↔ s.violation = none ∧ s.point o = .rest (some r) := by
  unfold outcome
  split <;> simp_all

theorem State.Awaits.outcome {k : Lock} {x : OsThread} (ha : s.Awaits o k x)
    (hv : s.violation = none) : s.outcome o = .blocks := by
  unfold State.outcome
  cases ha with
  | monitor m _ hs | cell j _ hs => cases hp : s.point o <;> rw [hp] at hs <;> cases hs <;> simp [hv]

theorem State.due_acquire_eq_blocks (h : s.due o i (.acquire m) = .blocks) :
    (s.monitors.get m).owner ≠ some i ∧ ∃ x, (s.monitors.get m).lock.holder = some x ∧ x ≠ o := by
  simp only [due, deeper, locked] at h
  split at h
  · split at h <;> cases h
  · rename_i ho
    split at h
    · cases h
    · rename_i hn
      obtain ⟨x, hx⟩ := Option.ne_none_iff_exists'.mp hn
      split at h
      · cases h
      · rename_i hh
        exact ⟨ho, x, hx, fun e => hh (e ▸ hx)⟩

theorem State.due_tryAcquire_eq_false_iff :
    s.due o i (.tryAcquire m) = .answers (.bool false) ↔
      (s.monitors.get m).owner ≠ some i ∧ (s.monitors.get m).lock.holder ≠ none := by
  simp only [due, deeper]
  split
  · split <;> simp_all
  · simp_all

theorem Tidy.violation_iff (h : Tidy s) (hc : s.Calm) (hp : Performs s o i c t) {x : OsThread} :
    t.violation = some (x, v) ↔ x = o ∧ Breaks s o i c v := by
  rw [← outcome_eq_violates_iff (o := o), (h.performs hc hp).1, due_eq_violates_iff]

theorem Tidy.resumes (h : Tidy s) (hv : s.violation = none) (hl : l.call? = none)
    (hs : s.step l = some t) : t.violation = none := by
  cases step_transition hs with
  | crashes hc => exact (h.not_crashes hc).elim
  | refused => cases hl
  | _ => exact hv

theorem Tidy.awaits_iff (h : Tidy s) (hc : s.Calm) (hp : Performs s o i (.acquire m) t) :
    (t.violation = none ∧ ∃ x, t.Awaits o (.monitor m) x) ↔
      (s.monitors.get m).owner ≠ some i ∧ ∃ x, (s.monitors.get m).lock.holder = some x ∧ x ≠ o := by
  constructor
  · rintro ⟨hv, x, ha⟩
    have hd := (h.performs hc hp).1
    rw [ha.outcome hv] at hd
    exact due_acquire_eq_blocks hd.symm
  · rintro ⟨ho, x, hx, hn⟩
    have ⟨u, hs, _⟩ := hp
    have hv := step_violation hs
    obtain ⟨r', hr⟩ := (step_transition hs).rest_of_call
    -- It stops where it has begun.
    have ha : (s.place o i (.entering m)).Awaits o (.monitor m) x :=
      .monitor m x (by rw [point_placed]; rfl) hx hn
    obtain rfl : t = s.place o i (.entering m) :=
      hp.unique ⟨_, (Transition.begins hr (.acquire m ho)).step hv, .stops ha.blocked.no_step⟩
    exact ⟨hv, x, ha⟩

theorem Tidy.fails_iff (h : Tidy s) (hc : s.Calm) (hp : Performs s o i (.tryAcquire m) t) :
    (t.violation = none ∧ t.point o = .rest (some (.bool false))) ↔
      (s.monitors.get m).owner ≠ some i ∧ (s.monitors.get m).lock.holder ≠ none := by
  rw [← outcome_eq_answers_iff, (h.performs hc hp).1, due_tryAcquire_eq_false_iff]

/-- **What breaks a rule, and what blocks.** -/
theorem Serial.contract (h : Serial s) (hv : s.violation = none) : Contract s := by
  have ht := h.tidy hv
  exact {
    paired := ht.paired
    resumes := fun _ _ => ht.resumes hv
    ends := fun _ i c _ hc hr =>
      have ⟨u, hs, t, ha, _⟩ := ht.comes (i := i) (c := c) hc hv hr
      ⟨t, u, hs, ha⟩
    comes := fun _ _ _ _ hc hp => (ht.performs hc hp).1
    aborts := fun _ _ _ _ hc hp _ _ => ht.violation_iff hc hp
    blocks := fun _ _ _ _ => ht.awaits_iff
    fails := fun _ _ _ _ => ht.fails_iff }

/-! ### Turns that are taken by computation -/

/-- The end of going on alone, if that takes fewer steps than the bound. -/
def State.goOn (o : OsThread) : Nat → State → Option State
  | 0, _ => none
  | n + 1, s =>
    match s.step (.advance o) with
    | none => some s
    | some t => t.goOn o n

theorem alone_of_goOn {n : Nat} (h : s.goOn o n = some t) : Alone o s t := by
  induction n generalizing s with
  | zero => cases h
  | succ n ih =>
    unfold goOn at h
    split at h
    · rename_i hs
      cases h
      exact .stops fun u hu => by rw [hs] at hu; cases hu
    · rename_i u hs
      exact .step hs (ih h)

theorem State.calm_of_all (h : s.threads.cells.all (·.point.IsCalm)) : s.Calm := by
  exact Row.forall_get (p := fun x : Standing => x.point.IsCalm = true) rfl (List.all_eq_true.mp h)

/-- Operations one after the other, each of fewer than ten steps. -/
def takeTurns : List (OsThread × Identity × Call) → State → Option State
  | [], s => some s
  | (o, i, c) :: turns, s =>
    if s.threads.cells.all (·.point.IsCalm) then
      ((s.step (.call o i c)).bind (goOn o 10)).bind (takeTurns turns)
    else none

theorem Serial.takeTurns {turns : List (OsThread × Identity × Call)} (h : Serial s)
    (ht : takeTurns turns s = some t) : Serial t := by
  induction turns generalizing s with
  | nil =>
    cases ht
    exact h
  | cons turn turns ih =>
    unfold Monitor.takeTurns at ht
    split at ht
    · rename_i hc
      obtain ⟨v, hv, ht⟩ := Option.bind_eq_some_iff.mp ht
      obtain ⟨u, hs, hg⟩ := Option.bind_eq_some_iff.mp hv
      exact ih (h.call (calm_of_all hc) ⟨u, hs, alone_of_goOn hg⟩) ht
    · cases ht

/-- A list of operations that leads to the end that is asked for. -/
theorem exists_serial (p : State → Bool) (turns : List (OsThread × Identity × Call))
    (h : (takeTurns turns .start).any p) : ∃ s, Serial s ∧ p s = true := by
  cases hr : takeTurns turns .start with
  | none => simp [hr] at h
  | some s =>
    rw [hr] at h
    exact ⟨s, Serial.start.takeTurns hr, h⟩

/-- The owner has been taken deeper by an OS thread that does not hold the mutex, and a third OS
thread is blocked. -/
theorem contract_shared : ∃ s, Serial s ∧ s.violation = none ∧ s.point 2 = .entering 0 ∧
    s.monitors.get 0 = ⟨⟨some 0⟩, some 0, 2, []⟩ ∧ Contract s := by
  obtain ⟨s, h, hp⟩ := exists_serial
    (fun s => s.violation = none ∧ s.point 2 = .entering 0 ∧
      s.monitors.get 0 = ⟨⟨some 0⟩, some 0, 2, []⟩)
    [(0, 0, .acquire 0), (1, 0, .acquire 0), (2, 2, .acquire 0)] (by decide)
  simp only [decide_eq_true_eq] at hp
  obtain ⟨hv, h2, h0⟩ := hp
  exact ⟨s, h, hv, h2, h0, h.contract hv⟩

end VmHost.Monitor
