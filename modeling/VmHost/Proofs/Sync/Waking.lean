import VmHost.Proofs.Run
import VmHost.Proofs.Sync.Transition

/-!
# Who wakes the sleepers of an event

A setter that finds the word signaled leaves the sleepers to somebody else: to the setter that has
signaled the word and has still to call the kernel. `Minded` says that there is one whenever somebody
sleeps while the word is signaled. It holds although the word may be cleared and set again before that
call, since nobody falls asleep on a signaled word, and a cleared one makes no promise.

How an operation ends depends on what its thread has learned from the word and from the clock. `account`
reads that off the history, and `Point.Follows` says for every point what it is by then.

* `Run.wakeful`: nobody sleeps through a signal unless a setter is about to wake them, and a wait answers
  what it has seen.
-/
namespace VmHost.Event

open State

/-- A step that was taken. -/
abbrev Moment := Machine.Moment State Label

/-- Everything that has happened to a fresh event. -/
abbrev Run (past : List Moment) (s : State) : Prop := Machine.Run step start past s

/-! ## What is learned in an operation -/

/-- What an OS thread learns at a step. -/
inductive Sight
  /-- The word, as it was before the step. -/
  | word (signaled : Bool)
  | clock (now : Nat)
  deriving DecidableEq, Repr

/-- What the next step of an OS thread tells it. -/
def State.sight? (s : State) (o : OsThread) : Option Sight :=
  match s.threads.get o with
  | .swapping | .reading _ => some (.word s.signaled)
  | .timing _ | .weighing _ => some (.clock s.now)
  | _ => none

/-- An operation, and what its thread has learned in it, the last thing first. -/
structure Account where
  op : Op
  seen : List Sight
  deriving DecidableEq, Repr

/-- The account after a step that may tell something. -/
def Account.learn (x : Option Sight) (a : Account) : Account := { a with seen := x.toList ++ a.seen }

/-- The last operation that an OS thread has begun. -/
def account (o : OsThread) : List Moment → Option Account
  | [] => none
  | m :: past =>
    match m.label with
    | .call x op => if x = o then some ⟨op, []⟩ else account o past
    | .advance x =>
      if x = o then (account o past).map (Account.learn (m.before.sight? o)) else account o past
    | .rouse _ | .pass _ => account o past

/-- A wait with this limit has this deadline: the limit counts from the first thing that it saw. -/
def Due (limit : Option Nat) (seen : List Sight) : Option Nat → Prop
  | none => limit = none
  | some deadline =>
    ∃ ms since, limit = some ms ∧ seen.getLast? = some (.clock since) ∧ deadline = since + ms

/-- An OS thread that stands at this point has this account of its last operation. -/
def Point.Follows (a : Option Account) : Point → Prop
  | .out none => True
  | .out (some true) => ∃ limit seen, a = some ⟨.wait limit, .word true :: seen⟩
  | .out (some false) => ∃ limit deadline now seen,
      a = some ⟨.wait limit, .clock now :: .word false :: seen⟩ ∧
        Due limit seen (some deadline) ∧ deadline ≤ now
  | .swapping => a = some ⟨.set, []⟩
  | .waking => a = some ⟨.set, [.word false]⟩
  | .clearing => a = some ⟨.reset, []⟩
  | .timing ms => a = some ⟨.wait (some ms), []⟩
  | .reading d | .dozing d | .asleep d => ∃ limit seen, a = some ⟨.wait limit, seen⟩ ∧ Due limit seen d
  | .weighing d => ∃ limit seen, a = some ⟨.wait limit, .word false :: seen⟩ ∧ Due limit seen (some d)

/-! ## Sleepers -/

/-- Whoever sleeps while the word is signaled is about to be woken. -/
def State.Minded (s : State) : Prop :=
  s.signaled = true → ∀ o d, s.threads.get o = .asleep d → ∃ w, s.threads.get w = .waking

/-- The middle of a set. -/
def Point.IsSetting : Point → Prop
  | .swapping | .waking => True
  | _ => False

/-- An event wakes its sleepers, and its waits answer what they have seen. -/
structure Wakeful (past : List Moment) (s : State) : Prop where
  /-- Where somebody sleeps while the word is signaled, a set that has swapped a clear word for a
  signaled one has still to wake all. -/
  owed : s.signaled = true → ∀ o d, s.threads.get o = .asleep d →
    ∃ w, s.threads.get w = .waking ∧ account w past = some ⟨.set, [.word false]⟩
  /-- While no set is under way, nobody sleeps on a signaled word. -/
  awake : s.signaled = true → (∀ w, ¬ (s.threads.get w).IsSetting) →
    ∀ o d, s.threads.get o ≠ .asleep d
  /-- A wait that has answered `true` has read a signaled word last. -/
  found : ∀ o, s.threads.get o = .out (some true) →
    ∃ limit seen, account o past = some ⟨.wait limit, .word true :: seen⟩
  /-- A wait that has answered `false` has a time limit, which counts from the first thing that it saw.
  It has read a clear word, and then a clock on which that time was over. -/
  expired : ∀ o, s.threads.get o = .out (some false) →
    ∃ ms since now seen, account o past = some ⟨.wait (some ms), .clock now :: .word false :: seen⟩ ∧
      seen.getLast? = some (.clock since) ∧ since + ms ≤ now
  /-- A wait without a time limit does not answer `false`. -/
  endless : ∀ o seen, account o past = some ⟨.wait none, seen⟩ → s.threads.get o ≠ .out (some false)

variable {s t : State} {past : List Moment} {o x : OsThread} {l : Label} {p q : Point}
  {a : Option Account} {limit d : Option Nat} {seen : List Sight}

/-! ## One step -/

theorem Due.cons (h : Due limit seen d) (y : Sight) : Due limit (y :: seen) d := by
  cases d with
  | none => exact h
  | some deadline =>
    obtain ⟨ms, since, hl, hs, hd⟩ := h
    refine ⟨ms, since, hl, ?_, hd⟩
    rw [List.getLast?_cons, hs]
    rfl

/-- An operation begins without having learned anything. -/
theorem follows_first (op : Op) : (first op).Follows (some ⟨op, []⟩) := by
  cases op with
  | set | reset => rfl
  | wait limit =>
    cases limit with
    | none => exact ⟨none, [], rfl, rfl⟩
    | some ms => rfl

/-- To be woken tells a thread nothing. -/
theorem Point.Follows.wake (h : p.Follows a) : (wake p).Follows a := by
  cases p <;> exact h

/-- A thread that goes on learns what it needs for the point that it comes to. -/
theorem Moves.follows (hm : Moves s o p) (h : (s.threads.get o).Follows a) :
    p.Follows (a.map (Account.learn (s.sight? o))) := by
  unfold sight?
  cases hm with
  | relies hp hw => trivial
  | times hp =>
    rw [hp] at h ⊢
    subst h
    exact ⟨_, _, rfl, _, _, rfl, rfl, rfl⟩
  | sees hp hw =>
    rw [hp] at h ⊢
    obtain ⟨limit, seen, rfl, hd⟩ := h
    exact ⟨limit, seen, by rw [hw]; rfl⟩
  | misses hp hw =>
    rw [hp] at h ⊢
    obtain ⟨limit, seen, rfl, hd⟩ := h
    exact ⟨limit, seen, by rw [hw]; rfl, hd⟩
  | lingers hp hw =>
    rw [hp] at h ⊢
    obtain ⟨limit, seen, rfl, hd⟩ := h
    exact ⟨limit, _, rfl, hd.cons _⟩
  | expires hp hd =>
    rw [hp] at h ⊢
    obtain ⟨limit, seen, rfl, hs⟩ := h
    exact ⟨limit, _, _, seen, rfl, hs, hd⟩
  | stays hp hd =>
    rw [hp] at h ⊢
    obtain ⟨limit, seen, rfl, hs⟩ := h
    exact ⟨limit, _, rfl, (hs.cons _).cons _⟩
  | sleeps hp hw | returns hp hw =>
    rw [hp] at h ⊢
    obtain ⟨limit, seen, rfl, hd⟩ := h
    exact ⟨limit, seen, rfl, hd⟩

theorem Moves.not_waking (hm : Moves s o p) : s.threads.get o ≠ .waking := by
  cases hm <;> simp_all

/-- Nobody falls asleep on a signaled word. -/
theorem Moves.not_asleep (hm : Moves s o p) (hw : s.signaled = true) (d : Option Nat) :
    p ≠ .asleep d := by
  cases hm <;> simp_all

/-- Every step keeps the accounts in order. -/
theorem Transition.follows (ht : Transition s l t)
    (h : ∀ o, (s.threads.get o).Follows (account o past)) (o : OsThread) :
    (t.threads.get o).Follows (account o (⟨s, l, t⟩ :: past)) := by
  -- Only what a thread does itself enters its account; all that others do to it is to wake it.
  cases ht with
  | @calls x op a hp =>
    simp only [account, get_moveTo, eq_comm (a := o)]
    split
    · exact follows_first op
    · exact h o
  | @moves x p hm =>
    simp only [account, get_moveTo, eq_comm (a := o)]
    split
    · rename_i e
      subst e
      exact hm.follows (h _)
    · exact h o
  | @swaps x hp hw =>
    simp only [account, get_moveTo, eq_comm (a := o)]
    split
    · rename_i e
      subst e
      have ha := h x
      rw [hp] at ha
      rw [ha, sight?, hp, hw]
      rfl
    · exact h o
  | @wakes x hp =>
    simp only [account, get_moveTo, eq_comm (a := o)]
    split
    · trivial
    · rw [get_wake]
      exact (h o).wake
  | @clears x hp =>
    simp only [account, get_moveTo, eq_comm (a := o)]
    split
    · trivial
    · exact h o
  | @rouses x d hp =>
    simp only [account, get_moveTo]
    split
    · rename_i e
      subst e
      have ha := h o
      rwa [hp] at ha
    · exact h o
  | passes => exact h o

namespace State.Minded

theorem start : Minded .start := nofun

/-- A thread that is not about to wake the sleepers may go anywhere, but not to sleep on a signaled
word. -/
theorem moveTo (h : s.Minded) (hp : s.threads.get o ≠ .waking)
    (hq : s.signaled = true → ∀ d, q ≠ .asleep d) : (s.moveTo o q).Minded := by
  intro hw x d hx
  rw [get_moveTo] at hx
  split at hx
  · exact absurd hx (hq hw d)
  · obtain ⟨w, hk⟩ := h hw x d hx
    have hn : w ≠ o := by
      rintro rfl
      exact hp hk
    exact ⟨w, by rw [get_moveTo, if_neg hn, hk]⟩

/-- Whatever happens, sleepers are not forgotten. -/
theorem step (h : s.Minded) (ht : Transition s l t) : t.Minded := by
  cases ht with
  | @calls x op a hp =>
    refine h.moveTo (by rw [hp]; nofun) fun _ d => ?_
    rcases op with _ | _ | _ | _ <;> nofun
  | moves hm => exact h.moveTo hm.not_waking hm.not_asleep
  | @swaps x hp hw => exact fun _ _ _ _ => ⟨x, by rw [get_moveTo, if_pos rfl]⟩
  | @wakes x hp =>
    -- Nobody is left asleep.
    intro _ y d hy
    rw [get_moveTo, get_wake] at hy
    split at hy
    · cases hy
    · cases hq : s.threads.get y <;> simp [hq, wake] at hy
  | clears hp => nofun
  | rouses hp => exact h.moveTo (by rw [hp]; nofun) nofun
  | passes => exact h

end State.Minded

/-! ## Whole runs -/

/-- Every state that can be reached has a history. -/
theorem State.Reachable.exists_run (h : Reachable .start s) : ∃ past, Run past s := by
  induction h with
  | refl => exact ⟨[], .start⟩
  | step l _ hs ih =>
    obtain ⟨past, hr⟩ := ih
    exact ⟨_, hr.step l hs⟩

theorem Run.follows (h : Run past s) (o : OsThread) : (s.threads.get o).Follows (account o past) := by
  induction h generalizing o with
  | start => rw [start, Row.get_empty]; trivial
  | step l _ hs ih => exact (step_transition hs).follows ih o

theorem Run.minded (h : Run past s) : s.Minded := by
  induction h with
  | start => exact .start
  | step l _ hs ih => exact ih.step (step_transition hs)

/-- **No wake-up is lost**, whatever any number of threads does to an event, and whenever the kernel
ends a sleep. -/
theorem Run.wakeful (h : Run past s) : Wakeful past s where
  owed hs o d ho := by
    obtain ⟨w, hw⟩ := h.minded hs o d ho
    have ha := h.follows w
    rw [hw] at ha
    exact ⟨w, hw, ha⟩
  awake hs hn o d ho := by
    obtain ⟨w, hw⟩ := h.minded hs o d ho
    exact hn w (by rw [hw]; trivial)
  found o ho := by
    have ha := h.follows o
    rwa [ho] at ha
  expired o ho := by
    have ha := h.follows o
    rw [ho] at ha
    obtain ⟨_, _, now, seen, ha, ⟨ms, since, rfl, hs, rfl⟩, hd⟩ := ha
    exact ⟨ms, since, now, seen, ha, hs, hd⟩
  endless o seen hn ho := by
    have ha := h.follows o
    rw [ho] at ha
    obtain ⟨_, _, _, _, ha, ⟨ms, _, rfl, _⟩, _⟩ := ha
    rw [hn] at ha
    cases ha

/-- Thread 0 sleeps without an end, and thread 1 until its time is over. Then the word is set by thread
2, cleared by thread 3, set by thread 4, and found signaled by threads 5 and 6, before anybody has called
the kernel. -/
def rush : List Label :=
  [.call 0 (.wait none), .advance 0, .advance 0] ++
    .call 1 (.wait (some 5)) :: List.replicate 4 (.advance 1) ++
    [.pass 5, .rouse 1, .advance 1, .advance 1] ++
    [.call 2 .set, .advance 2, .call 3 .reset, .advance 3, .call 4 .set, .advance 4] ++
    [.call 5 .set, .advance 5, .call 6 (.wait none), .advance 6]

/-- Two setters have still to wake thread 0, while a third one has returned. -/
theorem wakeful_rush : ∃ past s, Run past s ∧ s.signaled = true ∧ s.threads.get 0 = .asleep none ∧
    s.threads.get 1 = .out (some false) ∧ s.threads.get 2 = .waking ∧ s.threads.get 4 = .waking ∧
    s.threads.get 5 = .out none ∧ s.threads.get 6 = .out (some true) ∧ Wakeful past s := by
  obtain ⟨past, s, h, hp⟩ := Machine.exists_run step start
    (fun _ s => s.signaled = true ∧ s.threads.get 0 = .asleep none ∧
      s.threads.get 1 = .out (some false) ∧ s.threads.get 2 = .waking ∧ s.threads.get 4 = .waking ∧
      s.threads.get 5 = .out none ∧ s.threads.get 6 = .out (some true)) rush (by decide)
  simp only [decide_eq_true_eq] at hp
  obtain ⟨hs, h0, h1, h2, h4, h5, h6⟩ := hp
  exact ⟨past, s, h, hs, h0, h1, h2, h4, h5, h6, Run.wakeful h⟩

end VmHost.Event
